import NativeViews.Proofs.Host.ImportSection

/-!
How a set of imports grows while a module is built, and what is left in it where the module cannot
be built. Nothing but an array of edge insets among the types of the props stops a module.
-/

namespace NativeViews

/-! ## Growing sets of imports -/

theorem Imports.contains_addAll (imports : Imports) (needed : List Import) (other : Import) :
    (imports.addAll needed).contains other ↔ imports.contains other ∨ other ∈ needed := by
  induction needed generalizing imports with
  | nil => simp [addAll]
  | cons first needed ih =>
    have grown : imports.addAll (first :: needed) = (imports.add first).addAll needed := rfl
    rw [grown, ih, contains_add, List.mem_cons, Bool.or_eq_true, decide_eq_true_iff]
    tauto

namespace Building

variable {α β : Type}

/-- What comes of building a part when imports have been noted before, and the imports that have
been noted after it. -/
def onto (built : Building α) (imports : Imports) : Except Failure α × Imports :=
  (built.outcome, imports.addAll built.needs)

theorem onto_bind_of_ok {first : Building α} {imports after : Imports} {part : α}
    (built : first.onto imports = (.ok part, after)) (next : α → Building β) :
    (first >>= next).onto imports = (next part).onto after := by
  obtain ⟨outcome, rfl⟩ := Prod.mk.inj built
  simp only [bind_of_ok outcome, onto, Imports.addAll, List.foldl_append]

theorem onto_bind_of_error {first : Building α} {imports after : Imports} {failure : Failure}
    (failed : first.onto imports = (.error failure, after)) (next : α → Building β) :
    (first >>= next).onto imports = (.error failure, after) := by
  obtain ⟨outcome, rfl⟩ := Prod.mk.inj failed
  simp only [bind_of_error outcome, onto]

/-- Building a list of parts stops at the first part that fails, with the needs of all parts
before it. -/
theorem exists_of_mapM_error {build : α → Building β} {parts : List α} {failure : Failure}
    (failed : (parts.mapM build).outcome = .error failure) :
    ∃ before part after, parts = before ++ part :: after ∧
      (∀ earlier ∈ before, ∃ result, (build earlier).outcome = .ok result) ∧
      (build part).outcome = .error failure ∧
      (parts.mapM build).needs
        = (before.flatMap fun earlier => (build earlier).needs) ++ (build part).needs := by
  induction parts with
  | nil => exact nomatch failed
  | cons part parts ih =>
    cases here : (build part).outcome with
    | error other =>
      rw [List.mapM_cons, bind_of_error here] at failed ⊢
      obtain rfl := Except.error.inj failed
      exact ⟨[], part, parts, rfl, by simp, here, rfl⟩
    | ok result =>
      have later : (parts.mapM build).outcome = .error failure := by
        rw [List.mapM_cons, bind_of_ok here] at failed
        cases rest : (parts.mapM build).outcome with
        | error other =>
          rw [bind_of_error rest] at failed
          exact failed
        | ok results =>
          rw [bind_of_ok rest] at failed
          exact nomatch failed
      obtain ⟨before, stop, after, rfl, done, stopped, needs⟩ := ih later
      refine ⟨part :: before, stop, after, rfl,
        List.forall_mem_cons.mpr ⟨⟨result, here⟩, done⟩, stopped, ?_⟩
      rw [List.mapM_cons, bind_of_ok here, bind_of_error later, needs, List.flatMap_cons,
        List.append_assoc]

end Building

/-! ## Props -/

/-- The one type without a validator. -/
def PropType.edgeInsetsList : PropType := .array (.reserved .edgeInsets)

/-- Whether the validator of a prop refers to an import. -/
def Property.Needs (prop : Property) (needed : Import) : Prop :=
  ∃ validator, Validator.ofType prop.type = .ok validator ∧ validator.needed? = some needed

theorem Validator.ofType_error_iff {type : PropType} {failure : Failure} :
    ofType type = .error failure ↔ type = .edgeInsetsList ∧
      failure = .unknownType "ArrayTypeAnnotation<EdgeInsetsPrimitive>" := by
  have message : PropType.arrayTag ++ "<" ++ Primitive.edgeInsets.name ++ ">"
      = "ArrayTypeAnnotation<EdgeInsetsPrimitive>" := rfl
  cases type with
  | scalar kind => simp [ofType, PropType.edgeInsetsList]
  | reserved primitive => simp [ofType, PropType.edgeInsetsList]
  | array element =>
    cases element with
    | scalar kind => simp [ofType, PropType.edgeInsetsList]
    | array inner => simp [ofType, PropType.edgeInsetsList]
    | reserved primitive =>
      cases primitive <;> simp [ofType, ofPrimitives, PropType.edgeInsetsList, message, eq_comm]

namespace Property

theorem failureOf?_validated (prop : Property) :
    failureOf? prop.validated = failureOf? (Validator.ofType prop.type) :=
  failureOf?_map ..

theorem validated_ok_iff {prop : Property} :
    (∃ entry, prop.validated = .ok entry) ↔ prop.type ≠ .edgeInsetsList := by
  rw [← failureOf?_eq_none_iff, failureOf?_validated, Option.eq_none_iff_forall_ne_some]
  simp [failureOf?_eq_some_iff, Validator.ofType_error_iff]

/-- A prop on its way to be an attribute. -/
def describe (prop : Property) : Building (String × Validator) := do
  let validator ← Validator.build prop.type
  pure (prop.name, validator)

theorem outcome_describe (prop : Property) : prop.describe.outcome = prop.validated := by
  rw [describe, Building.outcome_bind, Validator.outcome_build, validated]
  cases Validator.ofType prop.type <;> rfl

theorem needs_describe (prop : Property) :
    prop.describe.needs = ((Validator.ofType prop.type).toOption.bind Validator.needed?).toList := by
  cases typed : Validator.ofType prop.type with
  | error failure =>
    have failed : Validator.build prop.type = .fail failure := by rw [Validator.build, typed]
    rw [describe, failed]
    rfl
  | ok validator =>
    have built : Validator.build prop.type = ⟨validator.needed?.toList, .ok validator⟩ := by
      rw [Validator.build, typed]
    rw [describe, built, Building.needs_bind_of_ok rfl, Building.needs_pure, List.append_nil]
    rfl

theorem mem_needs_describe {prop : Property} {needed : Import} :
    needed ∈ prop.describe.needs ↔ prop.Needs needed := by
  rw [needs_describe, Needs]
  cases Validator.ofType prop.type <;> simp [Except.toOption]

end Property

/-! ## Components -/

theorem Descriptor.mem_needs_extendBases_iff {bases : List Base} {needed : Import} :
    needed ∈ (extendBases bases).needs ↔ needed = .componentRegistry ∧ bases ≠ [] := by
  constructor
  · intro member
    refine ⟨mem_needs_extendBases member, ?_⟩
    rintro rfl
    exact nomatch member
  · rintro ⟨rfl, some⟩
    obtain ⟨base, bases, rfl⟩ := List.exists_cons_of_ne_nil some
    cases base
    exact List.mem_cons_self

theorem mem_needs_nameGuard {name : String} {component : Component} {needed : Import} :
    needed ∈ (nameGuard name component).needs ↔
      needed = .viewManager ∧ component.legacyName?.isSome := by
  rw [needs_nameGuard, Option.isSome_map, List.mem_ite_nil_right, List.mem_singleton, and_comm]

namespace Component

variable {name : String} {component : Component} {failure : Failure}

theorem failureOf?_content (name : String) (component : Component) :
    failureOf? (component.content name)
      = failureOf? (component.props.mapM Property.validated) :=
  failureOf?_bind_pure ..

theorem content_ok_iff :
    (∃ content, component.content name = .ok content) ↔
      ∀ prop ∈ component.props, prop.type ≠ .edgeInsetsList := by
  rw [← failureOf?_eq_none_iff, failureOf?_content, failureOf?_eq_none_iff, exists_mapM_ok_iff]
  simp only [Property.validated_ok_iff]

/-- A module can be built unless a prop is an array of edge insets. -/
theorem toModule_ok_iff :
    (∃ program, (component.toModule name).outcome = .ok program) ↔
      ∀ prop ∈ component.props, prop.type ≠ .edgeInsetsList := by
  rw [outcome_toModule, ← failureOf?_eq_none_iff, failureOf?_map, failureOf?_eq_none_iff,
    content_ok_iff]

/-- The needs of props on their way to be attributes. -/
theorem mem_needs_props {props : List Property} {attributes : List (String × Validator)}
    (valid : props.mapM Property.validated = .ok attributes) {needed : Import} :
    needed ∈ attributes.flatMap (·.2.needed?.toList) ↔ ∃ prop ∈ props, prop.Needs needed := by
  have described : (props.mapM Property.describe).needs
      = attributes.flatMap (·.2.needed?.toList) := needs_attributes valid
  have outcome : (props.mapM Property.describe).outcome = .ok attributes :=
    (outcome_attributes props).trans valid
  rw [← described, Building.needs_mapM_of_ok outcome, List.mem_flatMap]
  simp only [Property.mem_needs_describe]

/-- What a module that is built needs. -/
theorem mem_needs_toModule_iff {program : Script.Program}
    (built : (component.toModule name).outcome = .ok program) {needed : Import} :
    needed ∈ (component.toModule name).needs ↔
      needed = .componentRegistry ∨ (needed = .viewManager ∧ component.legacyName?.isSome) ∨
        (∃ prop ∈ component.props, prop.Needs needed) ∨
        (needed = .ignoredEventHandlers ∧ component.events ≠ []) ∨
        (needed = .dispatchCommand ∧ component.commands ≠ []) := by
  obtain ⟨content, valid⟩ := content_ok_iff.mpr (toModule_ok_iff.mp ⟨program, built⟩)
  obtain ⟨attributes, typed, _⟩ := exists_of_bind_ok valid
  obtain ⟨other, again, needs⟩ := exists_needs typed name
  obtain rfl := Except.ok.inj (valid.symm.trans again)
  rw [mem_needs_toModule valid, needs]
  simp only [List.mem_append, mem_needs_props typed, List.mem_ite_nil_left,
    List.mem_ite_nil_right, List.mem_singleton, List.isEmpty_iff, ne_eq]
  grind

/-- The props before the first one that is an array of edge insets. -/
def mapped (component : Component) : List Property :=
  component.props.takeWhile (·.type ≠ .edgeInsetsList)

/-- What the props have noted when one of them has no validator: the needs of those before it. -/
theorem onto_describe_of_error
    (unmapped : (component.props.mapM Property.describe).outcome = .error failure)
    (imports : Imports) :
    failure = .unknownType "ArrayTypeAnnotation<EdgeInsetsPrimitive>" ∧
      (component.props.mapM Property.describe).onto imports = (.error failure,
        imports.addAll (component.mapped.flatMap fun prop => prop.describe.needs)) := by
  obtain ⟨before, prop, after, split, described, stopped, needs⟩ :=
    Building.exists_of_mapM_error unmapped
  have stop : Validator.ofType prop.type = .error failure := by
    rwa [Property.outcome_describe, ← failureOf?_eq_some_iff, Property.failureOf?_validated,
      failureOf?_eq_some_iff] at stopped
  obtain ⟨type, cause⟩ := Validator.ofType_error_iff.mp stop
  have earlier : ∀ prop ∈ before, decide (prop.type ≠ .edgeInsetsList) = true := by
    intro prop member
    obtain ⟨entry, valid⟩ := described prop member
    rw [Property.outcome_describe] at valid
    exact decide_eq_true (Property.validated_ok_iff.mp ⟨entry, valid⟩)
  have front : component.mapped = before := by
    rw [mapped, split, List.takeWhile_append_of_pos earlier,
      List.takeWhile_cons_of_neg (by simp [type]), List.append_nil]
  have nothing : prop.describe.needs = [] := by
    rw [Property.needs_describe, stop]
    rfl
  exact ⟨cause, by rw [Building.onto, unmapped, needs, nothing, List.append_nil, front]⟩

/-- What has been noted when a module turns out not to be built: what comes before the first prop
without a validator. -/
theorem onto_toModule_of_error (failed : (component.toModule name).outcome = .error failure)
    (imports : Imports) :
    failure = .unknownType "ArrayTypeAnnotation<EdgeInsetsPrimitive>" ∧
      (component.toModule name).onto imports = (.error failure,
        ((imports.addAll (nameGuard name component).needs).addAll
          (Descriptor.extendBases component.bases).needs).addAll
            (component.mapped.flatMap fun prop => prop.describe.needs)) := by
  have unmapped : (component.props.mapM Property.describe).outcome = .error failure := by
    rw [← failureOf?_eq_some_iff, outcome_toModule, failureOf?_map, failureOf?_content] at failed
    exact (outcome_attributes _).trans (failureOf?_eq_some_iff.mp failed)
  have props := onto_describe_of_error unmapped
  -- The guard and the bases are built in any case, so that their needs are noted before the props.
  have guard : (nameGuard name component).onto imports
      = (.ok _, imports.addAll (nameGuard name component).needs) :=
    Prod.ext (outcome_nameGuard name component) rfl
  have bases (after : Imports) : (Descriptor.extendBases component.bases).onto after
      = (.ok (), after.addAll (Descriptor.extendBases component.bases).needs) :=
    Prod.ext (Descriptor.outcome_extendBases component.bases) rfl
  have descriptor (className : String) (after : Imports) :
      (Descriptor.build className component).onto after = (.error failure,
        (after.addAll (Descriptor.extendBases component.bases).needs).addAll
          (component.mapped.flatMap fun prop => prop.describe.needs)) := by
    rw [Descriptor.build, Building.onto_bind_of_ok (bases after)]
    exact Building.onto_bind_of_error (props _).2 _
  refine ⟨(props imports).1, ?_⟩
  rw [toModule, Building.onto_bind_of_ok guard]
  exact Building.onto_bind_of_error (descriptor _ _) _

end Component

/-! ## Libraries -/

/-- Nothing is generated for a library exactly if a prop of one of its components is an array of
edge insets. -/
theorem Schema.generate_error_iff (extension library : String) (schema : Schema) :
    (∃ failure, schema.generate extension library = .error failure) ↔
      ∃ module ∈ schema.modules.entries, ∃ parts, module.2 = .components parts ∧
        ∃ part ∈ parts.entries, ∃ prop ∈ part.2.props, prop.type = .edgeInsetsList := by
  have built : (∃ files, schema.generate extension library = .ok files) ↔
      ∀ entry ∈ schema.components, ∀ prop ∈ entry.component.props, prop.type ≠ .edgeInsetsList := by
    rw [generate_eq, ← failureOf?_eq_none_iff, failureOf?_map, failureOf?_eq_none_iff, content,
      exists_mapM_ok_iff]
    simp only [Component.content_ok_iff]
  rw [exists_error_iff, built]
  constructor
  · intro unmapped
    simp only [Classical.not_forall, not_not] at unmapped
    obtain ⟨entry, member, prop, inside, type⟩ := unmapped
    obtain ⟨module, present, parts, kind, part, held, rfl⟩ := mem_components.mp member
    exact ⟨module, present, parts, kind, part, held, prop, inside, type⟩
  · rintro ⟨module, present, parts, kind, part, held, prop, inside, type⟩ mapped
    have entry := mem_components.mpr ⟨module, present, parts, kind, part, held, rfl⟩
    exact mapped _ entry prop inside type

/-- A module is built exactly if no prop is an array of edge insets, whatever imports have been noted
before. They make no difference to its statements, and after it there are these and what the module
needs. A module that is not built leaves what was needed before the first such prop, and the failure
names the type. So nothing is generated for a library exactly if one of its components has such a
prop. -/
theorem Component.onto_toModule (name : String) (component : Component) (imports : Imports) :
    ((∃ program, ((component.toModule name).onto imports).1 = .ok program) ↔
      ∀ prop ∈ component.props, prop.type ≠ .edgeInsetsList) ∧
    (∀ program, ((component.toModule name).onto imports).1 = .ok program →
      (∀ others, ((component.toModule name).onto others).1 = .ok program) ∧
      ∀ needed, ((component.toModule name).onto imports).2.contains needed ↔
        imports.contains needed ∨ needed = .componentRegistry ∨
          (needed = .viewManager ∧ component.legacyName?.isSome) ∨
          (∃ prop ∈ component.props, prop.Needs needed) ∨
          (needed = .ignoredEventHandlers ∧ component.events ≠ []) ∨
          (needed = .dispatchCommand ∧ component.commands ≠ [])) ∧
    (∀ failure, ((component.toModule name).onto imports).1 = .error failure →
      failure = .unknownType "ArrayTypeAnnotation<EdgeInsetsPrimitive>" ∧
      ∀ needed, ((component.toModule name).onto imports).2.contains needed ↔
        imports.contains needed ∨ (needed = .viewManager ∧ component.legacyName?.isSome) ∨
          (needed = .componentRegistry ∧ component.bases ≠ []) ∨
          ∃ prop ∈ component.mapped, prop.Needs needed) ∧
    ∀ (schema : Schema) (extension library : String),
      (∃ failure, schema.generate extension library = .error failure) ↔
        ∃ module ∈ schema.modules.entries, ∃ parts, module.2 = .components parts ∧
          ∃ part ∈ parts.entries, ∃ prop ∈ part.2.props, prop.type = .edgeInsetsList := by
  refine ⟨toModule_ok_iff, fun program built => ⟨fun _ => built, fun needed => ?_⟩,
    fun failure failed => ?_, fun schema extension library =>
      schema.generate_error_iff extension library⟩
  · rw [Building.onto, Imports.contains_addAll, mem_needs_toModule_iff built]
  · obtain ⟨cause, after⟩ := onto_toModule_of_error failed imports
    refine ⟨cause, fun needed => ?_⟩
    simp only [after, Imports.contains_addAll, mem_needs_nameGuard,
      Descriptor.mem_needs_extendBases_iff, List.mem_flatMap, Property.mem_needs_describe, or_assoc]

end NativeViews
