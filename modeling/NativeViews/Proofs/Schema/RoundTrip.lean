import NativeViews.Proofs.Schema.FirstFailure
import NativeViews.Proofs.Schema.WireForm

/-!
Reading a schema that has been written. It is the same schema again, unless the type of a prop
puts more arrays inside each other than a reader takes brackets.
-/

namespace NativeViews

/-! ## Meaning of what was written -/

namespace Wire

theorem PropType.convert_ofTyped (type : NativeViews.PropType) : (ofTyped type).convert = .ok type := by
  induction type with
  | scalar kind => cases kind <;> rfl
  | reserved primitive => cases primitive <;> rfl
  | array element ih =>
    rw [ofTyped, convert, if_pos rfl, ih]
    rfl

theorem Base.convert_ofTyped (base : NativeViews.Base) : (ofTyped base).convert = .ok base := by
  cases base
  rfl

theorem Property.convert_ofTyped (prop : NativeViews.Property) :
    (ofTyped prop).convert = .ok prop := by
  rw [convert, ofTyped, PropType.convert_ofTyped]
  rfl

theorem Component.convert_ofTyped (component : NativeViews.Component) :
    (ofTyped component).convert = .ok component := by
  have props : (component.props.map Property.ofTyped).mapM Property.convert = .ok component.props :=
    OrderedMap.mapM_ok fun prop _ => Property.convert_ofTyped prop
  have bases : (component.bases.map Base.ofTyped).mapM Base.convert = .ok component.bases :=
    OrderedMap.mapM_ok fun base _ => Base.convert_ofTyped base
  rw [convert, ofTyped, props, bases]
  rfl

theorem ListedModule.convert_ofTyped (module : NativeViews.Module) :
    (ofTyped module).toModule.convert = .ok module := by
  cases module with
  | components parts =>
    have read := OrderedMap.mapM_ofList fun entry (_ : entry ∈ parts.entries) =>
      Component.convert_ofTyped entry.2
    rw [ofTyped, toModule, Module.convert, read]
    rfl
  | other => rfl

theorem Listing.convert_ofTyped (schema : NativeViews.Schema) :
    (ofTyped schema).toSchema.convert = .ok schema := by
  have reads : ∀ entry ∈ schema.modules.entries,
      Module.convert ((ListedModule.toModule ∘ ListedModule.ofTyped) entry.2) = .ok entry.2 :=
    fun entry _ => ListedModule.convert_ofTyped entry.2
  have read := OrderedMap.mapM_ofList reads
  rw [ofTyped, toSchema, List.map_map, Schema.convert]
  exact congrArg (Except.map NativeViews.Schema.mk) read

end Wire

/-! ## The bound on arrays -/

/-- Whether every type of a prop of the module nests fewer arrays than `limit`. -/
def Module.ArraysBelow (limit : Nat) (module : Module) : Prop :=
  ∀ parts ∈ module.components?, ∀ entry ∈ parts.entries, ∀ prop ∈ entry.2.props,
    prop.type.arrayLevels < limit

theorem Schema.arraysBelow_iff (schema : Schema) (limit : Nat) :
    (∀ entry ∈ schema.modules.entries, entry.2.ArraysBelow limit) ↔
      ∀ entry ∈ schema.components, ∀ prop ∈ entry.component.props,
        prop.type.arrayLevels < limit := by
  constructor
  · intro below entry member
    obtain ⟨module, present, parts, held, part, inside, rfl⟩ := mem_components.mp member
    exact below module present parts (by rw [held]; rfl) part inside
  · intro below module present parts found part held
    have kind : module.2 = .components parts := by
      cases same : module.2 with
      | components others => rw [same] at found; exact congrArg _ (Option.some.inj found)
      | other => rw [same] at found; exact nomatch found
    exact below ⟨module.1, part.1, part.2⟩
      (mem_components.mpr ⟨module, present, parts, kind, part, held, rfl⟩)

theorem Module.isSound_toJson_iff (module : Module) (levels : Nat) :
    module.toJson.isSound (levels + 8) = true ↔ module.ArraysBelow (levels + 3) := by
  cases module with
  | components parts =>
    simp [toJson, OrderedMap.toJson, Json.isSound_record, Component.isSound_toJson, ArraysBelow,
      components?]
  | other => simp [toJson, Json.isSound_record, ArraysBelow, components?]

/-! ## Reading back -/

namespace Wire

theorem ListedModule.read?_toJson {module : NativeViews.Module} {levels : Nat}
    (below : module.ArraysBelow (levels + 3)) :
    read? (levels + 8) module.toJson = some (.ofTyped module) := by
  have sound := (module.isSound_toJson_iff levels).mpr below
  cases module with
  | components parts =>
    have read : Json.entries? (Component.read? .kept) (levels + 7)
        (parts.toJson NativeViews.Component.toJson)
        = some (parts.entries.map fun entry => (entry.1, Component.ofTyped entry.2)) :=
      Json.entries?_record fun entry member =>
        Component.read?_toJson (below parts rfl entry member) .kept
    have tagged : Module.tagged? (NativeViews.Module.components parts).toJson
        = some (Module.componentType,
          .record [("components", parts.toJson NativeViews.Component.toJson)]) := rfl
    rw [read?, sound, tagged]
    simp only [Bool.not_true, Bool.false_eq_true, ↓reduceIte, Option.bind_eq_bind, Option.bind_some]
    rw [Json.fields?_record (by simp) (by simp), Option.bind_some,
      Json.Fields.require_of_lookup rfl]
    simp only [Nat.add_one_sub_one, read]
    rfl
  | other =>
    rw [read?, sound]
    rfl

/-- A schema whose types nest fewer than 120 arrays is read as it was written, any other not at
all: seven brackets are open around the type of a prop, and a reader takes 127. -/
theorem Listing.read?_toJson (schema : NativeViews.Schema) :
    read? Json.depthLimit schema.toJson =
      if ∀ entry ∈ schema.components, ∀ prop ∈ entry.component.props, prop.type.arrayLevels ≤ 119
      then some (.ofTyped schema) else none := by
  have through : read? Json.depthLimit schema.toJson
      = Json.entries? ListedModule.read? 126
          (schema.modules.toJson NativeViews.Module.toJson) := by
    rw [Json.depthLimit, read?, NativeViews.Schema.toJson,
      Json.fields?_record (by simp) (by simp)]
    simp only [Option.bind_eq_bind, Option.bind_some]
    rw [Json.Fields.require_of_lookup rfl]
  rw [through]
  split
  · next shallow =>
    have below := (schema.arraysBelow_iff 120).mpr fun entry member prop inside =>
      Nat.lt_succ_of_le (shallow entry member prop inside)
    exact Json.entries?_record fun entry member => ListedModule.read?_toJson (below entry member)
  · next deep =>
    have above : ¬ ∀ entry ∈ schema.modules.entries, entry.2.ArraysBelow 120 := by
      rw [schema.arraysBelow_iff]
      exact fun below => deep fun entry member prop inside =>
        Nat.le_of_lt_succ (below entry member prop inside)
    simp only [Classical.not_forall] at above
    obtain ⟨entry, member, tooDeep⟩ := above
    have unsound : entry.2.toJson.isSound 125 = false := by
      rw [Bool.eq_false_iff]
      exact fun sound => tooDeep ((entry.2.isSound_toJson_iff 117).mp sound)
    have failed : ListedModule.read? 125 entry.2.toJson = none := by
      rw [ListedModule.read?, unsound]
      rfl
    exact Json.entries?_record_eq_none member failed

end Wire

/-- Reading the written form of a schema gives the schema back, with everything in its order,
exactly as long as no type of a prop nests 120 arrays; otherwise the text counts as malformed. -/
theorem Schema.ofText_render_toJson [Libraries] (schema : Schema) :
    Schema.ofText schema.toJson.render =
      if ∀ entry ∈ schema.components, ∀ prop ∈ entry.component.props, prop.type.arrayLevels ≤ 119
      then .ok schema
      else .error (.malformedJson (Libraries.json .schema schema.toJson.render)) := by
  have read : Wire.Listing.ofText? schema.toJson.render
      = Wire.Listing.read? Json.depthLimit schema.toJson := by
    rw [Wire.Listing.ofText?, Json.parse?_render schema.spelled_toJson, Option.bind_some]
  rw [Wire.Listing.read?_toJson] at read
  by_cases shallow : ∀ entry ∈ schema.components, ∀ prop ∈ entry.component.props,
      prop.type.arrayLevels ≤ 119
  · rw [if_pos shallow] at read ⊢
    exact (ofText_of_listed read).trans (Wire.Listing.convert_ofTyped schema)
  · rw [if_neg shallow] at read ⊢
    exact ofText_of_unlisted read

end NativeViews
