import NativeViews.Proofs.OrderedMap
import NativeViews.Proofs.Outcome
import NativeViews.Schema.Reader

/-!
What becomes of the text of a schema. It is malformed unless all of it can be read, and then the
first type or base without a meaning is what fails, in the order of the document; of modules and
components whose name stands more than once, the last one counts, in the place of the first.
-/

namespace NativeViews.Wire

/-- What a text lists, names that stand more than once included. -/
def Listing.ofText? (text : String) : Option Listing :=
  (Json.parse? text).bind (read? Json.depthLimit)

/-! ## What has to be understood -/

/-- A part of a schema that may have no meaning. -/
inductive Tag where
  | type (type : PropType)
  | base (base : Base)

/-- What the conversion of a part fails with, if it fails. -/
def Tag.failure? : Tag → Option Failure
  | .type spelled => failureOf? spelled.convert
  | .base spelled => failureOf? spelled.convert

/-- The parts of a component: the types of all props, then all bases. -/
def Component.tags (component : Component) : List Tag :=
  component.props.map (.type ·.type) ++ component.bases.map .base

/-- The parts of a module, component by component. -/
def ListedModule.tags : ListedModule → List Tag
  | components parts => (OrderedMap.settled parts).flatMap (·.2.tags)
  | other => []

/-- The parts of a schema, module by module. -/
def Listing.tags (listing : Listing) : List Tag :=
  (OrderedMap.settled listing).flatMap (·.2.tags)

theorem findSome?_flatMap {α β γ : Type} (parts : List α) (inner : α → List β)
    (pick : β → Option γ) :
    (parts.flatMap inner).findSome? pick
      = parts.findSome? fun part => (inner part).findSome? pick := by
  induction parts with
  | nil => rfl
  | cons part parts ih =>
    rw [List.flatMap_cons, List.findSome?_append, ih, List.findSome?_cons]
    cases (inner part).findSome? pick <;> rfl

theorem Property.failureOf?_convert (prop : Property) :
    failureOf? prop.convert = failureOf? prop.type.convert :=
  failureOf?_map ..

/-- A component fails as the first of its parts that has no meaning. -/
theorem Component.failureOf?_convert (component : Component) :
    failureOf? component.convert = component.tags.findSome? Tag.failure? := by
  have props : failureOf? (component.props.mapM Property.convert)
      = (component.props.map (Tag.type ·.type)).findSome? Tag.failure? := by
    rw [failureOf?_mapM, List.findSome?_map]
    simp only [Property.failureOf?_convert]
    rfl
  have bases : failureOf? (component.bases.mapM Base.convert)
      = (component.bases.map Tag.base).findSome? Tag.failure? := by
    rw [failureOf?_mapM, List.findSome?_map]
    rfl
  rw [tags, List.findSome?_append, ← props, ← bases, convert]
  cases component.props.mapM Property.convert with
  | error failure => rfl
  | ok props => rw [ok_bind, failureOf?_bind_pure]; rfl

/-- A map fails as the first of its values that has no meaning. -/
theorem failureOf?_mapM_entries {α β : Type} (step : α → Except Failure β) (map : OrderedMap α) :
    failureOf? (map.mapM step) = map.entries.findSome? fun entry => failureOf? (step entry.2) := by
  rw [OrderedMap.mapM, failureOf?_bind_pure, failureOf?_mapM]
  simp only [failureOf?_bind_pure]

theorem ListedModule.failureOf?_convert (module : ListedModule) :
    failureOf? module.toModule.convert = module.tags.findSome? Tag.failure? := by
  cases module with
  | components parts =>
    have converted : failureOf? (toModule (components parts)).convert
        = failureOf? ((OrderedMap.ofList parts).mapM Component.convert) :=
      failureOf?_map ..
    rw [converted, failureOf?_mapM_entries, OrderedMap.entries_ofList_eq_settled, tags,
      findSome?_flatMap]
    simp only [Component.failureOf?_convert]
  | other => rfl

theorem Listing.failureOf?_convert (listing : Listing) :
    failureOf? listing.toSchema.convert = listing.tags.findSome? Tag.failure? := by
  have converted : failureOf? listing.toSchema.convert
      = failureOf? (listing.toSchema.modules.mapM Module.convert) :=
    failureOf?_map ..
  rw [converted, failureOf?_mapM_entries, toSchema, OrderedMap.entries_ofList_eq_settled,
    OrderedMap.settled_map, List.findSome?_map, tags, findSome?_flatMap]
  exact congrArg (List.findSome? · _) (funext fun entry => entry.2.failureOf?_convert)

/-! ## What is carried over -/

/-- Whether a component has come out of one of a document with everything in its place. -/
structure Component.CarriedBy (component : Component) (typed : NativeViews.Component) : Prop where
  props : List.Forall₂ (fun prop property =>
    prop.name = property.name ∧ prop.type.convert = .ok property.type) component.props typed.props
  events : component.events = typed.events
  commands : component.commands = typed.commands
  bases : List.Forall₂ (fun base known => base.convert = .ok known) component.bases typed.bases
  paperName : component.paperName = typed.paperName
  legacyName : component.legacyName = typed.legacyName

/-- Whether a module has come out of one of a document. -/
def ListedModule.CarriedBy : ListedModule → NativeViews.Module → Prop
  | components parts, .components typed =>
    List.Forall₂ (fun part entry => part.1 = entry.1 ∧ part.2.CarriedBy entry.2)
      (OrderedMap.settled parts) typed.entries
  | other, .other => True
  | _, _ => False

/-- Whether a schema has come out of one of a document. -/
def Listing.CarriedBy (listing : Listing) (schema : NativeViews.Schema) : Prop :=
  List.Forall₂ (fun module entry => module.1 = entry.1 ∧ module.2.CarriedBy entry.2)
    (OrderedMap.settled listing) schema.modules.entries

theorem Component.carriedBy_of_convert {component : Component} {typed : NativeViews.Component}
    (converted : component.convert = .ok typed) : component.CarriedBy typed := by
  obtain ⟨props, propsRead, later⟩ := exists_of_bind_ok converted
  obtain ⟨bases, basesRead, same⟩ := exists_of_bind_ok later
  obtain rfl := Except.ok.inj same
  refine ⟨?_, rfl, rfl, mapM_ok_iff.mp basesRead, rfl, rfl⟩
  refine (mapM_ok_iff.mp propsRead).imp fun prop property read => ?_
  obtain ⟨type, converted, rfl⟩ := exists_of_map_ok read
  exact ⟨rfl, converted⟩

/-- A map that is converted keeps its keys and their order. -/
theorem entries_of_mapM {α β : Type} {step : α → Except Failure β} {map : OrderedMap α}
    {result : OrderedMap β} (done : map.mapM step = .ok result) :
    List.Forall₂ (fun entry image => entry.1 = image.1 ∧ step entry.2 = .ok image.2)
      map.entries result.entries := by
  obtain ⟨pairs, read, same⟩ := exists_of_bind_ok done
  obtain rfl := Except.ok.inj same
  have steps : List.Forall₂ (fun entry pair => entry.1 = pair.1 ∧ step entry.2 = .ok pair.2)
      map.entries pairs := by
    refine (mapM_ok_iff.mp read).imp fun entry pair paired => ?_
    obtain ⟨image, here, same⟩ := exists_of_bind_ok paired
    obtain rfl := Except.ok.inj same
    exact ⟨rfl, here⟩
  have keys : map.entries.map Prod.fst = pairs.map Prod.fst :=
    map_eq_of_forall₂ (steps.imp fun _ _ both => both.1)
  rwa [OrderedMap.entries_ofList (keys ▸ map.nodup)]

theorem ListedModule.carriedBy_of_convert {module : ListedModule} {typed : NativeViews.Module}
    (converted : module.toModule.convert = .ok typed) : module.CarriedBy typed := by
  cases module with
  | components parts =>
    obtain ⟨map, done, rfl⟩ := exists_of_map_ok converted
    have entries := entries_of_mapM done
    rw [OrderedMap.entries_ofList_eq_settled] at entries
    exact entries.imp fun _ _ both => ⟨both.1, Component.carriedBy_of_convert both.2⟩
  | other =>
    obtain rfl := Except.ok.inj converted
    trivial

theorem Listing.carriedBy_of_convert {listing : Listing} {typed : NativeViews.Schema}
    (converted : listing.toSchema.convert = .ok typed) : listing.CarriedBy typed := by
  obtain ⟨map, done, rfl⟩ := exists_of_map_ok converted
  have entries := entries_of_mapM done
  rw [toSchema, OrderedMap.entries_ofList_eq_settled, OrderedMap.settled_map,
    List.forall₂_map_left_iff] at entries
  exact entries.imp fun _ _ both => ⟨both.1, ListedModule.carriedBy_of_convert both.2⟩

/-! ## Failures of parts -/

/-- No part of a document that has been read makes it malformed. -/
theorem Tag.failure?_ne_malformed (tag : Tag) (report : JsonReport) :
    tag.failure? ≠ some (.malformedJson report) := by
  have flat (kind : String) (name : Option String) :
      PropType.convertFlat kind name ≠ .error (.malformedJson report) := by
    unfold PropType.convertFlat
    split <;> try simp
    split
    · cases name with
      | none => simp
      | some name =>
        simp only
        split <;> simp
    · split <;> simp
  rw [ne_eq]
  cases tag with
  | type spelled =>
    rw [failure?, failureOf?_eq_some_iff]
    induction spelled with
    | leaf kind name => exact flat kind name
    | node kind name element ih =>
      rw [PropType.convert]
      split
      · rwa [← failureOf?_eq_some_iff, failureOf?_map, failureOf?_eq_some_iff]
      · exact flat kind name
  | base spelled =>
    rw [failure?, failureOf?_eq_some_iff, Base.convert]
    split <;> simp

end NativeViews.Wire

namespace NativeViews

/-- What is read out of a text is what it lists, with every name once. -/
theorem Wire.Schema.readText_eq (text : String) :
    (Json.parse? text).bind (read? Json.depthLimit)
      = (Listing.ofText? text).map Listing.toSchema := by
  rw [Listing.ofText?, Option.map_bind]
  rfl

variable [Libraries]

theorem Schema.ofText_of_listed {text : String} {listing : Wire.Listing}
    (listed : Wire.Listing.ofText? text = some listing) :
    Schema.ofText text = listing.toSchema.convert := by
  rw [ofText, Wire.readText, Wire.Schema.readText_eq, listed]
  rfl

theorem Schema.ofText_of_unlisted {text : String} (unlisted : Wire.Listing.ofText? text = none) :
    Schema.ofText text = .error (.malformedJson (Libraries.json .schema text)) := by
  rw [ofText, Wire.readText, Wire.Schema.readText_eq, unlisted]
  rfl

/-- A text is malformed exactly if not all of it can be read, whatever stands in what can, and what
is reported then is reported of that text. If it can be read, it is a schema exactly if all of its
parts have a meaning, and else it fails as the first part that has none: the modules come in the
order in which their names come first, and so do the components of a module; of a component all
props come before all bases; and of modules and components with one name only the last one counts.
What comes out has everything in its place. -/
theorem Schema.ofText_first_failure (text : String) :
    (∀ report, Schema.ofText text = .error (.malformedJson report) ↔
      (Json.parse? text).bind (Wire.Schema.read? Json.depthLimit) = none ∧
      report = Libraries.json .schema text) ∧
    (Json.parse? text).bind (Wire.Schema.read? Json.depthLimit)
      = (Wire.Listing.ofText? text).map Wire.Listing.toSchema ∧
    ∀ listing, Wire.Listing.ofText? text = some listing →
      ((∃ schema, Schema.ofText text = .ok schema) ↔
        ∀ tag ∈ listing.tags, tag.failure? = none) ∧
      (∀ failure, Schema.ofText text = .error failure ↔
        ∃ before tag after, listing.tags = before ++ tag :: after ∧
          tag.failure? = some failure ∧ ∀ earlier ∈ before, earlier.failure? = none) ∧
      ∀ schema, Schema.ofText text = .ok schema → listing.CarriedBy schema := by
  refine ⟨fun report => ?_, Wire.Schema.readText_eq text, fun listing listed => ?_⟩
  · rw [Wire.Schema.readText_eq, Option.map_eq_none_iff]
    refine ⟨fun malformed => ?_, fun ⟨unlisted, same⟩ => same ▸ ofText_of_unlisted unlisted⟩
    cases listed : Wire.Listing.ofText? text with
    | none =>
      rw [ofText_of_unlisted listed, Except.error.injEq, Failure.malformedJson.injEq] at malformed
      exact ⟨rfl, malformed.symm⟩
    | some listing =>
      rw [ofText_of_listed listed, ← failureOf?_eq_some_iff,
        Wire.Listing.failureOf?_convert] at malformed
      obtain ⟨tag, _, fails⟩ := List.exists_of_findSome?_eq_some malformed
      exact absurd fails (tag.failure?_ne_malformed _)
  · rw [ofText_of_listed listed]
    refine ⟨?_, fun failure => ?_, fun schema => Wire.Listing.carriedBy_of_convert⟩
    · rw [← failureOf?_eq_none_iff, Wire.Listing.failureOf?_convert, List.findSome?_eq_none_iff]
    · rw [← failureOf?_eq_some_iff, Wire.Listing.failureOf?_convert, List.findSome?_eq_some_iff]

end NativeViews
