import NativeViews.Proofs.Host.Layout
import NativeViews.Proofs.Host.Uses
import NativeViews.Proofs.Script.Injectivity

/-!
Reading generated modules. Their text gives their statements back, but for a parameter of a
dispatcher that is spelled like a literal: where it is passed on it is read as the literal.
-/

namespace NativeViews

open Script (Expr Member Stmt Program Occurrence)

namespace Content

/-! ## Names -/

theorem binding_not_reserved (needed : Import) : needed.binding ∉ Script.reservedWords := by
  cases needed <;> simp [Import.binding, Script.reservedWords]

theorem isFree_binding (needed : Import) : (Occurrence.refers needed.binding).isFree :=
  (Script.isFree_of_isIdentifier needed.isIdentifier_binding (binding_not_reserved needed)).2

/-- What is called on an import is free, as the binding of the import is. -/
theorem isFree_method (needed : Import) {name suffix : String} (joined : suffix = "." ++ name)
    (identifier : Script.isIdentifier name) :
    (Occurrence.refers (needed.binding ++ suffix)).isFree := by
  rw [joined]
  exact Script.isFree_append needed.isIdentifier_binding (binding_not_reserved needed)
    (Script.isPath_of_isIdentifier identifier)

theorem isFree_nativeNameBinding :
    (Occurrence.binds nativeNameBinding).isFree ∧ (Occurrence.refers nativeNameBinding).isFree :=
  Script.isFree_of_isIdentifier (by simp [nativeNameBinding, Script.isIdentifier])
    (by simp [nativeNameBinding, Script.reservedWords])

theorem isFree_descriptorBinding :
    (Occurrence.binds descriptorBinding).isFree ∧ (Occurrence.refers descriptorBinding).isFree :=
  Script.isFree_of_isIdentifier (by simp [descriptorBinding, Script.isIdentifier])
    (by simp [descriptorBinding, Script.reservedWords])

theorem named_toExpr (validator : Validator) : validator.toExpr.Named Occurrence.isFree := by
  cases validator <;> simp [Validator.toExpr, isFree_binding]

theorem named_toMember (registration : Registration) :
    registration.toMember.Named Occurrence.isFree := by
  cases registration <;> simp [Registration.toMember]

theorem named_eventMembers (name : String) {entries : List Member}
    (named : ∀ entry ∈ entries, entry.Named Occurrence.isFree) :
    ∀ member ∈ eventMembers name entries, member.Named Occurrence.isFree := by
  unfold eventMembers
  split
  · simp
  · simpa using named

theorem named_listenerMembers (events : List String) :
    ∀ member ∈ listenerMembers events, member.Named Occurrence.isFree := by
  unfold listenerMembers
  split
  · simp
  · simp [isFree_binding]

theorem named_bubblingMember (entry : String × String) :
    (bubblingMember entry).Named Occurrence.isFree :=
  named_toMember (.bubbling entry.1 (entry.2 ++ "Capture") entry.2)

theorem named_directMember (entry : String × String) :
    (directMember entry).Named Occurrence.isFree :=
  named_toMember (.direct entry.1 entry.2)

theorem named_attributeMember (entry : String × Validator) :
    (attributeMember entry).Named Occurrence.isFree :=
  named_toExpr entry.2

theorem named_descriptor (content : Content) : content.descriptor.Named Occurrence.isFree := by
  have bubbling : ∀ entry ∈ content.bubbling.map bubblingMember,
      entry.Named Occurrence.isFree :=
    List.forall_mem_map.mpr fun entry _ => named_bubblingMember entry
  have direct : ∀ entry ∈ content.direct.map directMember, entry.Named Occurrence.isFree :=
    List.forall_mem_map.mpr fun entry _ => named_directMember entry
  have attributes : ∀ entry ∈ content.attributes.map attributeMember,
      entry.Named Occurrence.isFree :=
    List.forall_mem_map.mpr fun entry _ => named_attributeMember entry
  simp only [descriptor, Expr.named_object, List.forall_mem_append, List.forall_mem_singleton,
    Member.named_property, Expr.named_text, true_and]
  exact ⟨⟨named_eventMembers _ bubbling, named_eventMembers _ direct⟩, attributes,
    named_listenerMembers _⟩

theorem named_choice (content : Content) :
    ∀ stmt ∈ content.choice, stmt.Named Occurrence.isFree := by
  have method : Script.isIdentifier "hasViewManagerConfig" := by simp [Script.isIdentifier]
  have knows := isFree_method .viewManager (show ".hasViewManagerConfig" = _ by simp) method
  have error : Script.isIdentifier "Error" := by simp [Script.isIdentifier]
  have fails := (Script.isFree_of_isIdentifier error (by simp [Script.reservedWords])).2
  cases names : content.legacyNames with
  | none => simp [choice, names]
  | some pair => simp [choice, names, chooseName, knowsName, adoptName, knows, fails,
      isFree_nativeNameBinding.2]

/-- The statements before the dispatchers are well formed, whatever the schema holds. -/
theorem named_frame (content : Content) :
    ∀ stmt ∈ content.frame, stmt.Named Occurrence.isFree := by
  obtain ⟨name, refers⟩ := isFree_nativeNameBinding
  obtain ⟨descriptor, described⟩ := isFree_descriptorBinding
  have method : Script.isIdentifier "get" := by simp [Script.isIdentifier]
  have registers := isFree_method .componentRegistry (show ".get" = _ by simp) method
  have declared : (Stmt.declare nativeNameBinding (.text content.nativeName)).Named
      Occurrence.isFree := by
    simp [name]
  have exported : (Stmt.exportConst descriptorBinding content.descriptor).Named
      Occurrence.isFree :=
    Stmt.named_exportConst.mpr ⟨descriptor, content.named_descriptor⟩
  have registered : (Stmt.exportDefault (.call (Import.componentRegistry.binding ++ ".get") [
      .name nativeNameBinding, .arrow [] (.name descriptorBinding)])).Named Occurrence.isFree := by
    simp [registers, refers, described]
  simp only [frame, List.forall_mem_append, List.forall_mem_cons]
  exact ⟨⟨⟨declared, by simp⟩, content.named_choice⟩, exported, registered, by simp⟩

/-- The parameters of all commands. -/
def params (content : Content) : List String := content.commands.flatMap (·.2)

/-- The names of the dispatchers are a few of the generator's own, and the parameters. -/
theorem named_dispatchers_iff (fits : Occurrence → Bool) (content : Content)
    (own : ∀ occurrence : Occurrence, occurrence.isFree → fits occurrence) :
    (∀ stmt ∈ content.dispatchers, stmt.Named fits) ↔
      ∀ param ∈ content.params, fits (.binds param) ∧ fits (.refers param) := by
  have identifier : Script.isIdentifier dispatchersName ∧ Script.isIdentifier targetParam := by
    simp [dispatchersName, targetParam, Script.isIdentifier]
  have exported := own _ (Script.isFree_of_isIdentifier identifier.1
    (by simp [dispatchersName, Script.reservedWords])).1
  obtain ⟨target, view⟩ := Script.isFree_of_isIdentifier identifier.2
    (by simp [targetParam, Script.reservedWords])
  have dispatches := own _ (isFree_binding .dispatchCommand)
  rw [dispatchers, params]
  split
  · next none => simp [List.isEmpty_iff.mp none]
  · simp only [List.forall_mem_singleton, Stmt.named_exportConst, exported, Expr.named_object,
      List.forall_mem_map, List.forall_mem_flatMap, true_and]
    refine forall₂_congr fun command _ => ?_
    simp [dispatcherMember, Command.dispatcher, own _ target, own _ view, dispatches,
      forall_and]

/-- Whether the parameters of all commands are identifiers. -/
def Callable (content : Content) : Prop :=
  ∀ command ∈ content.commands, ∀ param ∈ command.2, Script.isIdentifier param

theorem spelled_dispatchers {content : Content} (callable : content.Callable) :
    ∀ stmt ∈ content.dispatchers, stmt.Named Occurrence.isSpelled := by
  refine (content.named_dispatchers_iff _ fun _ => Script.isSpelled_of_isFree).mpr
    fun param inside => ?_
  obtain ⟨command, member, here⟩ := List.mem_flatMap.mp inside
  have identifier := callable command member param here
  exact ⟨identifier, Script.isPath_of_isIdentifier identifier⟩

/-! ## Statements as they are read back -/

/-- The dispatcher of a command as it is read back: a parameter that is spelled like a literal
is one where it is passed on. -/
def readDispatcher : String × List String → Member
  | (name, params) => .method name (targetParam :: params) [
    .eval (.call Import.dispatchCommand.binding [
      .name targetParam,
      .text name,
      .array (params.map Script.readWord)])]

/-- The export of the dispatchers as it is read back. -/
def readDispatchers (content : Content) : List Stmt :=
  if content.commands.isEmpty then []
  else [.exportConst dispatchersName (.object (content.commands.map readDispatcher))]

/-- The statements of the module as they are read back. -/
def readProgram (content : Content) : Program :=
  content.frame ++ content.readDispatchers

theorem readAs_dispatcher (command : String × List String) :
    (dispatcherMember command).ReadAs (readDispatcher command) := by
  obtain ⟨name, params⟩ := command
  have passed : (Expr.array (params.map Expr.name)).ReadAs (.array (params.map Script.readWord)) :=
    Expr.readAs_array <| List.forall₂_map_left_iff.mpr <| List.forall₂_map_right_iff.mpr <|
      List.forall₂_same.mpr fun param _ => Expr.readAs_name param
  have target : (Expr.name targetParam).ReadAs (.name targetParam) := Expr.readAs_name targetParam
  have call := Expr.readAs_call Import.dispatchCommand.binding
    (.cons target (.cons (Expr.readAs_text name) (.cons passed .nil)))
  have opens (rest : List Script.Token) : Script.opensEval
      ((Expr.call Import.dispatchCommand.binding [.name targetParam, .text name,
        .array (params.map Expr.name)]).tokens ++ .sign ';' :: rest) := by
    simp [Expr.tokens, Script.opensEval, Script.statementWords, Import.binding]
  exact Member.readAs_method name (targetParam :: params)
    (.cons (Stmt.readAs_eval opens call) .nil)

theorem readAs_program (content : Content) :
    List.Forall₂ Stmt.ReadAs content.program content.readProgram := by
  have frame : List.Forall₂ Stmt.ReadAs content.frame content.frame :=
    List.forall₂_same.mpr fun stmt inside =>
      Script.readAs_inductive.stmt stmt (content.named_frame stmt inside)
  have dispatchers : List.Forall₂ Stmt.ReadAs content.dispatchers content.readDispatchers := by
    unfold dispatchers readDispatchers
    split
    · exact .nil
    · refine .cons (Stmt.readAs_exportConst dispatchersName (Expr.readAs_object ?_)) .nil
      exact List.forall₂_map_left_iff.mpr <| List.forall₂_map_right_iff.mpr <|
        List.forall₂_same.mpr fun command _ => readAs_dispatcher command
  exact List.rel_append frame dispatchers

/-- The modules of a library are read back from their text. -/
theorem ofTokens_render {contents : List Content}
    (callable : ∀ content ∈ contents, content.Callable) :
    Program.ofTokens (Script.scan (Program.render (contents.flatMap program)).toList)
      = some (contents.flatMap readProgram) := by
  have spelled : ∀ stmt ∈ contents.flatMap program, stmt.Named Occurrence.isSpelled := by
    refine List.forall_mem_flatMap.mpr fun content member => List.forall_mem_append.mpr ⟨?_, ?_⟩
    · exact fun stmt inside occurrence named =>
        Script.isSpelled_of_isFree (content.named_frame stmt inside occurrence named)
    · exact spelled_dispatchers (callable content member)
  have same : List.Forall₂ Stmt.ReadAs (contents.flatMap program) (contents.flatMap readProgram) :=
    List.rel_flatMap (List.forall₂_same.mpr fun _ _ => rfl) <| by
      rintro content _ rfl
      exact readAs_program content
  rw [Program.scan_render spelled]
  exact Stmt.ofTokens_allTokens same

end Content

end NativeViews
