import NativeViews.Proofs.Host.Description
import NativeViews.Proofs.Host.Spelling

/-!
Under which name a module registers its component when it runs. A component with an older name asks
the host for the names it knows, first for its own; one without takes what it is called, and asks
nothing.
-/

namespace NativeViews

open Script (Expr Member Stmt Program Value Call Stop Host Run Running isBindable)

/-! ## What a module asks and tells -/

/-- The question to the host whether it knows a name. -/
def knowsCall (name : String) : Call :=
  ⟨.foreign [Import.viewManager.binding, "hasViewManagerConfig"], [.text name]⟩

/-- The registration of a component under a name. -/
def registerCall (name : String) : Call :=
  ⟨.foreign [Import.componentRegistry.binding, "get"],
    [.text name, .function [] (.result (.name descriptorBinding)) []]⟩

/-- A name in double quotes. -/
def quoted (name : String) : String :=
  "\"" ++ name ++ "\""

/-- What a module says where the host knows neither of two names. -/
def refusal (name legacy : String) : String :=
  "Failed to find native component for either " ++ quoted name ++ " or " ++ quoted legacy

/-- The error that a module throws then. -/
def refusing (name legacy : String) : Stmt :=
  .throw (.construct "Error" [.text (refusal name legacy)])

theorem append_quoted (start middle name legacy : String) :
    start ++ "\"" ++ name ++ ("\"" ++ middle ++ "\"") ++ legacy ++ "\""
      = start ++ quoted name ++ middle ++ quoted legacy := by
  simp only [quoted, String.append_assoc]

theorem chooseName_eq (name legacy : String) :
    chooseName name legacy = .choose (knowsName name) [adoptName name] (some [
      .choose (knowsName legacy) [adoptName legacy] (some [refusing name legacy])]) := by
  -- The marks before the names end in quotes, so that the texts agree once these are set apart.
  have message : "Failed to find native component for either \"" ++ name ++ "\" or \"" ++ legacy
      ++ "\"" = refusal name legacy :=
    append_quoted "Failed to find native component for either " " or " name legacy
  exact congrArg (fun message => Stmt.choose (knowsName name) [adoptName name] (some [
    .choose (knowsName legacy) [adoptName legacy] (some [
      .throw (.construct "Error" [.text message])])])) message

/-- Whether a host answers for the names it knows, and marks listeners without throwing. -/
structure Script.Host.Serves (host : Host) (has : String → Bool) : Prop where
  knows : ∀ name, ∃ value, host.answer (knowsCall name) = .ok value ∧
    host.isTruthy value = has name
  ignores : ∀ call, IsIgnoring call → ∃ value, host.answer call = .ok value

/-- A host that knows some names, and whose other functions give nothing. -/
def Script.Host.knowing (has : String → Bool) : Host where
  answer
    | ⟨_, [.text name]⟩ => .ok (.bool (has name))
    | _ => .ok .undefined
  entries _ := []
  holds _ := false

/-- There are hosts for all sets of names. -/
theorem Script.Host.serves_knowing (has : String → Bool) : (Host.knowing has).Serves has where
  knows name := ⟨.bool (has name), rfl, rfl⟩
  ignores call _ := by
    unfold knowing
    dsimp only
    split
    · exact ⟨_, rfl⟩
    · exact ⟨_, rfl⟩

/-- What a run comes to where a component is registered. The host has been asked for some names and
for nothing else but to mark listeners, before the one registration; what it gives for that is the
default export; and the descriptor, which the function beside the name gives, has the class. -/
structure Registered (host : Host) (before after : Running) (className chosen : String)
    (asked : List String) : Prop where
  calls : ∃ ignoring, (∀ call ∈ ignoring, IsIgnoring call) ∧
    after.calls = before.calls ++ asked.map knowsCall ++ ignoring ++ [registerCall chosen]
  exported : ∀ value, host.answer (registerCall chosen) = .ok value →
    after.defaultExport = some value
  described : ∃ entries others,
    after.exports = before.exports ++ (descriptorBinding, .object entries) :: others ∧
    after.bindings.lookup descriptorBinding = some ⟨.object entries, true⟩ ∧
    entries.lookup "uiViewClassName" = some (.text className)

/-- What a run comes to where the host knows neither name: an error with both of them is thrown
before anything is exported. -/
structure Refused (before : Running) (outcome : Except Stop Unit × Running)
    (name legacy : String) : Prop where
  thrown : outcome.1
    = .error (.thrown (.made (.foreign ["Error"]) [.text (refusal name legacy)]))
  calls : outcome.2.calls = before.calls ++ [knowsCall name, knowsCall legacy]
  exports : outcome.2.exports = before.exports
  defaultExport : outcome.2.defaultExport = before.defaultExport

/-! ## Settling the name -/

/-- Whether a module has settled a name after asking for some, and done nothing else. -/
structure Script.Running.Named (before named : Running) (chosen : String)
    (asked : List String) : Prop where
  calls : named.calls = before.calls ++ asked.map knowsCall
  exports : named.exports = before.exports
  defaultExport : named.defaultExport = before.defaultExport
  name : named.bindings.lookup nativeNameBinding = some ⟨.text chosen, false⟩
  others : ∀ other, other ≠ nativeNameBinding →
    named.bindings.lookup other = before.bindings.lookup other

namespace Script.Running.Named

variable {needs : List Import} {before named : Running} {chosen : String} {asked : List String}

theorem declare (running : Running) (name : String) :
    running.Named { running with
      bindings := (nativeNameBinding, ⟨.text name, false⟩) :: running.bindings } name [] where
  calls := (List.append_nil _).symm
  exports := rfl
  defaultExport := rfl
  name := List.lookup_cons_self
  others := by
    intro other different
    rw [OrderedMap.lookup_entry_cons, if_neg different]

theorem ask (settled : before.Named named chosen asked) (name : String) :
    before.Named { named with calls := named.calls ++ [knowsCall name] } chosen
      (asked ++ [name]) where
  calls := by rw [settled.calls, List.map_append, List.append_assoc, List.map_singleton]
  exports := settled.exports
  defaultExport := settled.defaultExport
  name := settled.name
  others := settled.others

theorem adopt (settled : before.Named named chosen asked) (name : String) :
    before.Named { named with
      bindings := OrderedMap.putEntry nativeNameBinding ⟨.text name, false⟩ named.bindings }
      name asked where
  calls := settled.calls
  exports := settled.exports
  defaultExport := settled.defaultExport
  name := by rw [OrderedMap.lookup_putEntry, if_pos rfl]
  others := by
    intro other different
    rw [OrderedMap.lookup_putEntry, if_neg different, settled.others other different]

theorem imported (settled : before.Named named chosen asked) (bound : before.Imported needs) :
    named.Imported needs := by
  intro needed member
  rw [settled.others _ needed.binding_ne_own.1, bound needed member]

end Script.Running.Named

section Evaluation

variable {host : Host} {depth : Nat} {needs : List Import} {has : String → Bool}
  {content : Content} {before named : Running} {name legacy chosen : String} {asked : List String}
  {body : List Stmt} {alternate : Option (List Stmt)}

/-- The host is asked, and what it knows is taken. -/
theorem onward_choose_knowsName (serves : host.Serves has) (imported : named.Imported needs)
    (member : .viewManager ∈ needs) (name : String) :
    ((Stmt.choose (knowsName name) body alternate).perform host (Value.call host depth) []).onward
        named
      = if has name then (Stmt.performAll host (Value.call host depth) [] body).onward
          { named with calls := named.calls ++ [knowsCall name] }
        else (Stmt.performAlternate host (Value.call host depth) [] alternate).onward
          { named with calls := named.calls ++ [knowsCall name] } := by
  obtain ⟨value, answered, truth⟩ := serves.knows name
  have identifier : Script.isIdentifier "hasViewManagerConfig" := by simp [Script.isIdentifier]
  have called : (Script.follow [] (Import.viewManager.binding ++ ".hasViewManagerConfig")).onward
      named = (.ok (.foreign [Import.viewManager.binding, "hasViewManagerConfig"]), named) :=
    onward_method imported member identifier (by simp)
  have asking : ((knowsName name).evaluate host (Value.call host depth) []).onward named
      = (.ok value, { named with calls := named.calls ++ [knowsCall name] }) := by
    rw [knowsName, Script.onward_call called (Script.onward_evaluateAll (.cons rfl .nil))]
    exact Script.onward_callHost_of_ok answered named
  rw [Script.onward_choose asking, truth]

theorem onward_adoptName (settled : before.Named named chosen asked)
    {call : Value → List Value → Run Value} (name : String) :
    (Stmt.performAll host call [] [adoptName name]).onward named = (.ok (), { named with
      bindings := OrderedMap.putEntry nativeNameBinding ⟨.text name, false⟩ named.bindings }) := by
  rw [Script.onward_performAll_singleton]
  exact Script.onward_assign rfl isBindable_nativeNameBinding rfl settled.name

section Choosing

variable (serves : host.Serves has) (settled : before.Named named chosen [])
  (bound : before.Imported needs) (member : .viewManager ∈ needs)

include serves settled bound member

/-- The name of a component is taken if the host knows it. -/
theorem exists_named_of_known (known : has name = true) :
    ∃ later, ((chooseName name legacy).run host depth).onward named = (.ok (), later) ∧
      before.Named later name [name] := by
  refine ⟨_, ?_, (settled.ask name).adopt name⟩
  change ((chooseName name legacy).perform host (Value.call host depth) []).onward named = _
  rw [chooseName_eq, onward_choose_knowsName serves (settled.imported bound) member, if_pos known,
    onward_adoptName (settled.ask name)]

/-- Where the host does not know the name of a component, it is asked for the older one. -/
theorem onward_chooseName_of_unknown (unknown : has name = false) (legacy : String) (depth : Nat) :
    ∃ later, before.Named later chosen [name, legacy] ∧
      ((chooseName name legacy).run host depth).onward named
        = if has legacy then
            (Stmt.performAll host (Value.call host depth) [] [adoptName legacy]).onward later
          else
            (Stmt.performAll host (Value.call host depth) [] [refusing name legacy]).onward
              later := by
  have first := settled.ask name
  refine ⟨_, first.ask legacy, ?_⟩
  change ((chooseName name legacy).perform host (Value.call host depth) []).onward named = _
  rw [chooseName_eq, onward_choose_knowsName serves (settled.imported bound) member,
    if_neg (by simp [unknown]), Stmt.performAlternate, Script.onward_performAll_singleton,
    onward_choose_knowsName serves (first.imported bound) member]
  rfl

theorem exists_named_of_legacy (unknown : has name = false) (known : has legacy = true) :
    ∃ later, ((chooseName name legacy).run host depth).onward named = (.ok (), later) ∧
      before.Named later legacy [name, legacy] := by
  obtain ⟨later, asked, run⟩ :=
    onward_chooseName_of_unknown serves settled bound member unknown legacy depth
  refine ⟨_, ?_, asked.adopt legacy⟩
  rw [run, if_pos known, onward_adoptName asked]

/-- Where the host knows neither name, an error tells both. -/
theorem refused_of_unknown
    (errors : before.bindings.lookup "Error" = some ⟨.foreign ["Error"], false⟩)
    (unknown : has name = false) (older : has legacy = false) :
    ∃ later, ((chooseName name legacy).run host depth).onward named
        = (.error (.thrown (.made (.foreign ["Error"]) [.text (refusal name legacy)])), later) ∧
      before.Named later chosen [name, legacy] := by
  obtain ⟨later, asked, run⟩ :=
    onward_chooseName_of_unknown serves settled bound member unknown legacy depth
  have held : later.bindings.lookup "Error" = some ⟨.foreign ["Error"], false⟩ := by
    rw [asked.others "Error" (by decide), errors]
  have called : (Script.follow [] "Error").onward later = (.ok (.foreign ["Error"]), later) := by
    rw [Script.follow_name (by simp [isBindable, Script.isIdentifier, Script.keywords])]
    exact Script.onward_lookUp_binding rfl held
  have made : (Expr.evaluate host (Value.call host depth) []
      (.construct "Error" [.text (refusal name legacy)])).onward later
      = (.ok (.made (.foreign ["Error"]) [.text (refusal name legacy)]), later) :=
    Script.onward_construct called (Script.onward_evaluateAll (.cons rfl .nil))
  refine ⟨later, ?_, asked⟩
  rw [run, if_neg (by simp [older]), Script.onward_performAll_singleton, refusing,
    Script.onward_throw made]

end Choosing

/-! ## Registering -/

/-- Whether a module has gone on to the export of its descriptor, and done nothing else but to mark
listeners. -/
structure Script.Running.Described (named described : Running) (className : String) : Prop where
  calls : ∃ ignoring, (∀ call ∈ ignoring, IsIgnoring call) ∧
    described.calls = named.calls ++ ignoring
  descriptor : ∃ entries,
    described.exports = named.exports ++ [(descriptorBinding, .object entries)] ∧
    described.bindings.lookup descriptorBinding = some ⟨.object entries, true⟩ ∧
    entries.lookup "uiViewClassName" = some (.text className)
  others : ∀ other, other ≠ descriptorBinding →
    described.bindings.lookup other = named.bindings.lookup other

theorem Script.Running.Described.imported {described : Running} {className : String}
    (exported : named.Described described className) (bound : named.Imported needs) :
    described.Imported needs := by
  intro needed member
  rw [exported.others _ needed.binding_ne_own.2, bound needed member]

/-- The descriptor is exported once the name is settled. -/
theorem exists_described (serves : host.Serves has) (settled : before.Named named chosen asked)
    (bound : before.Imported content.needs)
    (undescribed : before.bindings.lookup descriptorBinding = none) (depth : Nat) :
    ∃ described, ((Stmt.exportConst descriptorBinding content.descriptor).run host depth).onward
        named = (.ok (), described) ∧ named.Described described content.nativeName := by
  obtain ⟨entries, ignoring, evaluated, only, held⟩ :=
    onward_descriptor depth serves.ignores (settled.imported bound)
  have fresh : named.bindings.lookup descriptorBinding = none := by
    rw [settled.others _ (by decide), undescribed]
  refine ⟨_, Script.onward_exportConst evaluated isBindable_descriptorBinding fresh, ?_⟩
  constructor
  · exact ⟨ignoring, only, rfl⟩
  · exact ⟨entries, rfl, List.lookup_cons_self, held⟩
  · intro other different
    rw [OrderedMap.lookup_entry_cons, if_neg different]

/-- A module that goes on to more exports has registered its component all the same. -/
theorem Registered.extend {after later : Running} {className : String}
    (registered : Registered host before after className chosen asked)
    (further : after.Extends later) : Registered host before later className chosen asked := by
  obtain ⟨⟨ignoring, only, calls⟩, exported, entries, others, exports, bound, held⟩ := registered
  obtain ⟨more, rest⟩ := further.exports
  constructor
  · exact ⟨ignoring, only, further.calls.trans calls⟩
  · intro value answered
    exact further.defaultExport.trans (exported value answered)
  · refine ⟨entries, others ++ more, ?_, further.bindings _ _ bound, held⟩
    rw [rest, exports, List.append_assoc, List.cons_append]

theorem extends_dispatchers (content : Content) (host : Host) (depth : Nat) (running : Running) :
    running.Extends ((Program.run host depth content.dispatchers).onward running).2 := by
  have methods : ∀ member ∈ content.commands.map Content.dispatcherMember,
      ∃ key params body, member = .method key params body := by
    intro member inside
    obtain ⟨command, _, rfl⟩ := List.mem_map.mp inside
    exact ⟨_, _, _, rfl⟩
  have still : ((Expr.evaluate host (Value.call host depth) []
      (.object (content.commands.map Content.dispatcherMember))).onward running).2 = running := by
    rw [Expr.evaluate, Run.onward_bind_pure]
    exact Script.onward_methods host (Value.call host depth) [] methods [] running
  rw [Content.dispatchers]
  split
  · exact .refl running
  · rw [Program.run_singleton]
    exact Script.extends_exportConst still dispatchersName

/-- The statements that describe a component and register it. -/
def Content.registration (content : Content) : Program :=
  [.exportConst descriptorBinding content.descriptor,
    .exportDefault (.call (Import.componentRegistry.binding ++ ".get") [
      .name nativeNameBinding, .arrow [] (.name descriptorBinding)])]

theorem Content.program_eq (content : Content) :
    content.program = .declare nativeNameBinding (.text content.nativeName)
      :: (content.choice ++ (content.registration ++ content.dispatchers)) := by
  simp [program, frame, registration]

/-- The registration is a call of the host with the name that is settled. -/
theorem onward_register (host : Host) (depth : Nat) {running : Running}
    (imported : running.Imported needs) (member : .componentRegistry ∈ needs)
    (settled : running.bindings.lookup nativeNameBinding = some ⟨.text chosen, false⟩) :
    (Expr.evaluate host (Value.call host depth) []
      (.call (Import.componentRegistry.binding ++ ".get") [
        .name nativeNameBinding, .arrow [] (.name descriptorBinding)])).onward running
      = (Script.callHost host (registerCall chosen)).onward running := by
  have called : (Script.follow [] (Import.componentRegistry.binding ++ ".get")).onward running
      = (.ok (.foreign [Import.componentRegistry.binding, "get"]), running) :=
    onward_method imported member (by simp [Script.isIdentifier]) (by simp)
  have first : (Expr.evaluate host (Value.call host depth) []
      (.name nativeNameBinding)).onward running = (.ok (.text chosen), running) := by
    rw [Expr.evaluate, Script.follow_name isBindable_nativeNameBinding,
      Script.onward_lookUp_binding rfl settled]
  exact Script.onward_call called (Script.onward_evaluateAll (.cons first (.cons rfl .nil)))

/-- With a descriptor exported, the call of the host is all that a registration lacks. -/
theorem Registered.of_described {described done : Running} {className : String}
    (settled : before.Named named chosen asked) (exported : named.Described described className)
    (calls : done.calls = described.calls ++ [registerCall chosen])
    (exports : done.exports = described.exports) (bindings : done.bindings = described.bindings)
    (given : ∀ value, host.answer (registerCall chosen) = .ok value →
      done.defaultExport = some value) :
    Registered host before done className chosen asked := by
  obtain ⟨ignoring, only, ignored⟩ := exported.calls
  obtain ⟨entries, descriptor, bound, held⟩ := exported.descriptor
  refine ⟨⟨ignoring, only, ?_⟩, given, entries, [], ?_, ?_, held⟩
  · rw [calls, ignored, settled.calls]
  · rw [exports, descriptor, settled.exports]
  · rw [bindings, bound]

/-- Once the name is settled, the component is registered under it. -/
theorem registered_of_named (serves : host.Serves has) (settled : before.Named named chosen asked)
    (bound : before.Imported content.needs)
    (undescribed : before.bindings.lookup descriptorBinding = none) (depth : Nat) :
    Registered host before
      ((Program.run host depth (content.registration ++ content.dispatchers)).onward named).2
      content.nativeName chosen asked := by
  obtain ⟨described, exporting, exported⟩ :=
    exists_described serves settled bound undescribed depth
  have chosenName : described.bindings.lookup nativeNameBinding = some ⟨.text chosen, false⟩ := by
    rw [exported.others _ (by decide), settled.name]
  have evaluated := onward_register host depth (exported.imported (settled.imported bound))
    (by simp [Content.needs]) chosenName
  rw [Content.registration, List.cons_append, Program.onward_cons_of_ok exporting]
  -- What the host gives for the registration decides whether there is a default export.
  cases answered : host.answer (registerCall chosen) with
  | error thrown =>
    rw [Script.onward_callHost_of_error answered] at evaluated
    rw [List.singleton_append,
      Program.onward_cons_of_error (Script.onward_exportDefault_of_error evaluated)]
    refine .of_described settled exported rfl rfl rfl ?_
    intro value given
    cases answered.symm.trans given
  | ok value =>
    rw [Script.onward_callHost_of_ok answered] at evaluated
    rw [List.singleton_append,
      Program.onward_cons_of_ok (Script.onward_exportDefault_of_ok evaluated)]
    refine Registered.extend ?_ (extends_dispatchers content host depth _)
    refine .of_described settled exported rfl rfl rfl ?_
    intro other given
    exact congrArg some (Except.ok.inj (answered.symm.trans given))

end Evaluation

/-! ## Running modules -/

theorem setName?_eq_some_iff {given : Option String} {name : String} :
    setName? given = some name ↔ given = some name ∧ name ≠ "" := by
  rw [setName?, Option.filter_eq_some_iff, decide_eq_true_iff]

theorem setName?_eq_none_iff {given : Option String} :
    setName? given = none ↔ ∀ name, given = some name → name = "" := by
  rw [setName?, Option.filter_eq_none_iff]
  simp

/-- A component with an older name is registered under its own name if the host knows that, else
under the older one if the host knows this, and else the module throws an error with both names in
quotes before it exports anything. A component without an older name is registered under its name
for older hosts, or else its own, and the host is asked for no name. The class that is told to the
host is the name for older hosts, or else the own one, whatever the host knows. -/
theorem registered_or_refused {name : String} {component : Component} {program : Program}
    (built : (component.toModule name).outcome = .ok program) {host : Host}
    {has : String → Bool} (serves : host.Serves has) {before : Running}
    (ready : before.Ready (component.toModule name).needs) (depth : Nat) :
    (∀ legacy, component.legacyName = some legacy → legacy ≠ "" →
      (has name = true →
        Registered host before ((Program.run host depth program).onward before).2
          (component.paperName.getD name) name [name]) ∧
      (has name = false → has legacy = true →
        Registered host before ((Program.run host depth program).onward before).2
          (component.paperName.getD name) legacy [name, legacy]) ∧
      (has name = false → has legacy = false →
        Refused before ((Program.run host depth program).onward before) name legacy)) ∧
    ((∀ legacy, component.legacyName = some legacy → legacy = "") →
      Registered host before ((Program.run host depth program).onward before).2
        (component.paperName.getD name) (component.paperName.getD name) []) ∧
    ∃ start members rest, program = start ++ .exportConst descriptorBinding (.object
      (.property "uiViewClassName" (.text (component.paperName.getD name)) :: members)) :: rest := by
  obtain ⟨content, valid, rfl⟩ := Component.exists_content built
  obtain ⟨className, legacyNames⟩ := Content.names_of_content valid
  rw [← className]
  have bound : before.Imported content.needs := by
    intro needed member
    exact ready.imported needed ((Component.mem_needs_toModule valid needed).mpr member)
  let named : Running := { before with
    bindings := (nativeNameBinding, ⟨.text content.nativeName, false⟩) :: before.bindings }
  have settled : before.Named named content.nativeName [] := .declare before content.nativeName
  have begun : (Program.run host depth content.program).onward before
      = (Program.run host depth (content.choice
          ++ (content.registration ++ content.dispatchers))).onward named := by
    have declared : ((Stmt.declare nativeNameBinding (.text content.nativeName)).run host
        depth).onward before = (.ok (), named) :=
      Script.onward_declare rfl isBindable_nativeNameBinding ready.nameless
    rw [content.program_eq, Program.onward_cons_of_ok declared]
  rw [begun]
  refine ⟨?_, ?_, ?_⟩
  · intro legacy given some
    have older : component.legacyName? = .some legacy := setName?_eq_some_iff.mpr ⟨given, some⟩
    rw [older, Option.map_some] at legacyNames
    have choice : content.choice = [chooseName name legacy] := by
      rw [Content.choice, legacyNames]
      rfl
    have asks : .viewManager ∈ content.needs := by
      simp [Content.needs, legacyNames]
    rw [choice, List.singleton_append]
    refine ⟨?_, ?_, ?_⟩
    · intro known
      obtain ⟨later, chosen, settled⟩ := exists_named_of_known serves settled bound asks known
      rw [Program.onward_cons_of_ok chosen]
      exact registered_of_named serves settled bound ready.undescribed depth
    · intro unknown known
      obtain ⟨later, chosen, settled⟩ :=
        exists_named_of_legacy serves settled bound asks unknown known
      rw [Program.onward_cons_of_ok chosen]
      exact registered_of_named serves settled bound ready.undescribed depth
    · intro unknown older
      obtain ⟨later, thrown, settled⟩ :=
        refused_of_unknown serves settled bound asks ready.errors unknown older
      rw [Program.onward_cons_of_error thrown]
      exact {
        thrown := rfl
        calls := settled.calls
        exports := settled.exports
        defaultExport := settled.defaultExport }
  · intro empty
    have none : component.legacyName? = .none := setName?_eq_none_iff.mpr empty
    have choice : content.choice = [] := by
      rw [Content.choice, legacyNames, none]
      rfl
    rw [choice, List.nil_append]
    exact registered_of_named serves settled bound ready.undescribed depth
  · obtain ⟨members, described⟩ : ∃ members, content.descriptor = .object
        (.property "uiViewClassName" (.text content.nativeName) :: members) := ⟨_, rfl⟩
    rw [content.program_eq, Content.registration, described]
    exact ⟨.declare nativeNameBinding (.text content.nativeName) :: content.choice, members, _, rfl⟩

theorem registered_or_refused_slider :
    ∃ (component : Component) (program : Program) (before : Running),
      component.paperName = some "RCTSlider" ∧ component.legacyName = some "RNSlider" ∧
      component.events ≠ [] ∧
      (component.toModule "Slider").outcome = .ok program ∧
      before.Ready (component.toModule "Slider").needs ∧
      (Host.knowing fun name => name = "RNSlider").Serves (fun name => name = "RNSlider") ∧
      Registered (.knowing fun name => name = "RNSlider") before
        ((Program.run (.knowing fun name => name = "RNSlider") 0 program).onward before).2
        "RCTSlider" "RNSlider" ["Slider", "RNSlider"] := by
  let component : Component := {
    props := [⟨"tint", .reserved .color⟩]
    events := [⟨"onChange", .bubble, none⟩]
    paperName := some "RCTSlider"
    legacyName := some "RNSlider" }
  obtain ⟨program, built⟩ : ∃ program, (component.toModule "Slider").outcome = .ok program :=
    ⟨_, component.outcome_toModule "Slider"⟩
  have serves := Host.serves_knowing fun name => name = "RNSlider"
  have ready := Script.Running.ready_starting (component.toModule "Slider").needs
  have registered := ((registered_or_refused built serves ready 0).1 "RNSlider" rfl (by decide)).2.1
    (by decide) (by decide)
  exact ⟨component, program, _, rfl, rfl, by simp [component], built, ready, serves, registered⟩

end NativeViews
