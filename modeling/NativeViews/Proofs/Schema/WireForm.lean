import NativeViews.Proofs.Json.Records
import NativeViews.Schema.Reader
import NativeViews.Schema.Writer

/-!
The written form of every part of a schema: what it spells, how many brackets it opens, and what
is read from it. Only the types of props nest without a bound, so that only they can open more
brackets than a reader takes.
-/

namespace NativeViews

open Json (spelled_text spelled_record spelled_list isSound_record isSound_array)

/-- How many arrays a type puts around its innermost element. -/
def PropType.arrayLevels : PropType → Nat
  | .array element => element.arrayLevels + 1
  | _ => 0

/-- How many element types a type holds inside each other. -/
def Wire.PropType.elementLevels : Wire.PropType → Nat
  | .leaf _ _ => 0
  | .node _ _ element => element.elementLevels + 1

theorem Wire.PropType.elementLevels_ofTyped (type : NativeViews.PropType) :
    (ofTyped type).elementLevels = type.arrayLevels := by
  induction type with
  | scalar kind => rfl
  | reserved primitive => rfl
  | array element ih => simp only [ofTyped, elementLevels, NativeViews.PropType.arrayLevels, ih]

/-! ## Spelling -/

theorem spelled_optionalMember (key : String) (value : Option String) :
    ∀ member ∈ optionalMember key value, member.2.Spelled := by
  intro member present
  obtain ⟨text, _, rfl⟩ := List.mem_map.mp present
  exact spelled_text text

theorem Wire.PropType.spelled_toJson (type : Wire.PropType) : type.toJson.Spelled := by
  induction type with
  | leaf kind name =>
    exact spelled_record
      (List.forall_mem_cons.mpr ⟨spelled_text kind, spelled_optionalMember "name" name⟩)
  | node kind name element ih =>
    refine spelled_record (List.forall_mem_append.mpr ⟨?_, ?_⟩)
    · exact List.forall_mem_cons.mpr ⟨spelled_text kind, spelled_optionalMember "name" name⟩
    · simpa using ih

theorem Wire.Base.spelled_toJson (base : Wire.Base) : base.toJson.Spelled := by
  apply spelled_record
  simp [spelled_text]

theorem Property.spelled_toJson (prop : Property) : prop.toJson.Spelled := by
  apply spelled_record
  simp [spelled_text, PropType.toJson, Wire.PropType.spelled_toJson]

theorem Event.spelled_toJson (event : Event) : event.toJson.Spelled := by
  refine spelled_record (List.forall_mem_append.mpr ⟨?_, spelled_optionalMember _ _⟩)
  simp [spelled_text]

theorem Command.spelled_toJson (command : Command) : command.toJson.Spelled := by
  have params : (Json.array
      (command.params.map fun param => .record [("name", .text param)])).Spelled := by
    apply spelled_list
    intro param _
    apply spelled_record
    simp [spelled_text]
  have type : (Json.record [("params", .array
      (command.params.map fun param => .record [("name", .text param)]))]).Spelled := by
    apply spelled_record
    simpa using params
  apply spelled_record
  simpa [spelled_text] using type

theorem Component.spelled_toJson (component : Component) : component.toJson.Spelled := by
  refine spelled_record (List.forall_mem_append.mpr
    ⟨List.forall_mem_append.mpr ⟨?_, spelled_optionalMember _ _⟩, spelled_optionalMember _ _⟩)
  have props := spelled_list fun prop (_ : prop ∈ component.props) => prop.spelled_toJson
  have events := spelled_list fun event (_ : event ∈ component.events) => event.spelled_toJson
  have commands := spelled_list fun command (_ : command ∈ component.commands) =>
    command.spelled_toJson
  have bases := spelled_list fun base (_ : base ∈ component.bases) =>
    (Wire.Base.ofTyped base).spelled_toJson
  simpa [Base.toJson] using ⟨props, events, commands, bases⟩

theorem OrderedMap.spelled_toJson {α : Type} {write : α → Json} {map : OrderedMap α}
    (spelled : ∀ entry ∈ map.entries, (write entry.2).Spelled) : (map.toJson write).Spelled := by
  apply spelled_record
  intro member present
  obtain ⟨entry, inside, rfl⟩ := List.mem_map.mp present
  exact spelled entry inside

theorem Module.spelled_toJson (module : Module) : module.toJson.Spelled := by
  cases module with
  | components parts =>
    have spelled := OrderedMap.spelled_toJson fun entry (_ : entry ∈ parts.entries) =>
      entry.2.spelled_toJson
    apply spelled_record
    simpa [spelled_text] using spelled
  | other =>
    apply spelled_record
    simp [spelled_text]

theorem Schema.spelled_toJson (schema : Schema) : schema.toJson.Spelled := by
  have spelled := OrderedMap.spelled_toJson fun entry (_ : entry ∈ schema.modules.entries) =>
    entry.2.spelled_toJson
  apply spelled_record
  simpa using spelled

/-! ## Brackets -/

theorem isSound_optionalMember (levels : Nat) (key : String) (value : Option String) :
    ((optionalMember key value).all fun member => member.2.isSound levels) = true := by
  cases value <;> simp [optionalMember]

theorem Wire.PropType.isSound_toJson (type : Wire.PropType) (levels : Nat) :
    type.toJson.isSound levels = decide (type.elementLevels < levels) := by
  induction type generalizing levels with
  | leaf kind name =>
    cases levels with
    | zero => rfl
    | succ levels => simp [toJson, isSound_record, isSound_optionalMember, elementLevels]
  | node kind name element ih =>
    cases levels with
    | zero => rfl
    | succ levels => simp [toJson, isSound_record, isSound_optionalMember, elementLevels, ih]

theorem Property.isSound_toJson (prop : Property) (levels : Nat) :
    prop.toJson.isSound (levels + 1) = decide (prop.type.arrayLevels < levels) := by
  simp [toJson, isSound_record, PropType.toJson, Wire.PropType.isSound_toJson,
    Wire.PropType.elementLevels_ofTyped]

theorem Base.isSound_toJson (base : Base) (levels : Nat) :
    base.toJson.isSound (levels + 1) = true := by
  simp [toJson, Wire.Base.toJson, isSound_record]

theorem Event.isSound_toJson (event : Event) (levels : Nat) :
    event.toJson.isSound (levels + 1) = true := by
  simp [toJson, isSound_record, isSound_optionalMember]

theorem Command.isSound_toJson (command : Command) (levels : Nat) :
    command.toJson.isSound (levels + 4) = true := by
  simp [toJson, isSound_record, isSound_array]

theorem Component.isSound_toJson (component : Component) (levels : Nat) :
    component.toJson.isSound (levels + 6)
      = decide (∀ prop ∈ component.props, prop.type.arrayLevels < levels + 3) := by
  rw [Bool.eq_iff_iff]
  simp [toJson, isSound_record, isSound_array, isSound_optionalMember, Property.isSound_toJson,
    Base.isSound_toJson, Event.isSound_toJson, Command.isSound_toJson]

/-! ## Reading -/

theorem Wire.PropType.toJson_ne_null (type : Wire.PropType) : type.toJson ≠ Json.null := by
  cases type <;> simp [toJson, Json.record]

theorem Wire.PropType.read?_toJson {type : Wire.PropType} {levels : Nat}
    (fits : type.elementLevels < levels) : read? levels type.toJson = some type := by
  obtain ⟨below, rfl⟩ := Nat.exists_eq_add_one_of_ne_zero (Nat.ne_zero_of_lt fits)
  induction type generalizing below with
  | leaf kind name =>
    rw [read?, toJson, Json.fields?_record (by cases name <;> simp [optionalMember])
      (by cases name <;> simp [optionalMember])]
    simp only [Option.bind_eq_bind, Option.bind_some]
    rw [Json.Fields.require_of_lookup rfl, Json.text?_text,
      Json.Fields.read?_optional name (by cases name <;> rfl),
      Json.Fields.read?_of_absent (by cases name <;> rfl)]
    rfl
  | node kind name element ih =>
    obtain ⟨inside, rfl⟩ := Nat.exists_eq_add_one_of_ne_zero
      (Nat.ne_zero_of_lt (Nat.lt_of_succ_lt_succ fits))
    have inner := ih inside (Nat.lt_of_succ_lt_succ fits)
    rw [read?, toJson, Json.fields?_record (by cases name <;> simp [optionalMember])
      (by cases name <;> simp [optionalMember])]
    simp only [Option.bind_eq_bind, Option.bind_some]
    rw [Json.Fields.require_of_lookup rfl, Json.text?_text,
      Json.Fields.read?_optional name (by cases name <;> rfl),
      Json.Fields.read?_of_lookup (by cases name <;> rfl) element.toJson_ne_null, inner]
    rfl

theorem Wire.Base.read?_toJson (base : Wire.Base) (levels : Nat) :
    read? (levels + 1) base.toJson = some base := by
  rw [read?, toJson, Json.fields?_record (by simp) (by simp)]
  rfl

namespace Wire

/-- How a document spells a prop. -/
def Property.ofTyped (prop : NativeViews.Property) : Property :=
  ⟨prop.name, .ofTyped prop.type⟩

/-- How a document spells a component. -/
def Component.ofTyped (component : NativeViews.Component) : Component where
  props := component.props.map .ofTyped
  events := component.events
  commands := component.commands
  bases := component.bases.map .ofTyped
  paperName := component.paperName
  legacyName := component.legacyName

/-- How a document lists a module. -/
def ListedModule.ofTyped : NativeViews.Module → ListedModule
  | .components parts => .components (parts.entries.map fun entry => (entry.1, .ofTyped entry.2))
  | .other => .other

/-- What a document lists of a schema. -/
def Listing.ofTyped (schema : NativeViews.Schema) : Listing :=
  schema.modules.entries.map fun entry => (entry.1, .ofTyped entry.2)

theorem Property.read?_toJson {prop : NativeViews.Property} {levels : Nat}
    (fits : prop.type.arrayLevels < levels) :
    read? (levels + 1) prop.toJson = some (.ofTyped prop) := by
  have type : PropType.read? levels prop.type.toJson = some (.ofTyped prop.type) :=
    PropType.read?_toJson (by rwa [PropType.elementLevels_ofTyped])
  rw [read?, NativeViews.Property.toJson, Json.fields?_record (by simp) (by simp)]
  simp only [Option.bind_eq_bind, Option.bind_some]
  rw [Json.Fields.require_of_lookup rfl, Json.text?_text, Json.Fields.require_of_lookup rfl, type]
  rfl

theorem readTravel?_name (source : Source) (levels : Nat) (travel : Travel) :
    readTravel? source levels (Json.text travel.name) = some travel := by
  cases travel <;> rfl

theorem readEvent?_toJson (source : Source) (levels : Nat) (event : Event) :
    readEvent? source (levels + 1) event.toJson = some event := by
  obtain ⟨name, travel, legacyName⟩ := event
  rw [readEvent?, Event.toJson, Json.fields?_record
    (by cases legacyName <;> simp [optionalMember]) (by cases legacyName <;> simp [optionalMember])]
  simp only [Option.bind_eq_bind, Option.bind_some]
  rw [Json.Fields.require_of_lookup rfl, Json.text?_text, Json.Fields.require_of_lookup rfl,
    readTravel?_name, Json.Fields.read?_optional legacyName (by cases legacyName <;> rfl)]
  rfl

theorem readParam?_toJson (levels : Nat) (param : String) :
    readParam? (levels + 1) (Json.record [("name", .text param)]) = some param := by
  rw [readParam?, Json.fields?_record (by simp) (by simp)]
  rfl

theorem readCommand?_toJson (levels : Nat) (command : Command) :
    readCommand? (levels + 4) command.toJson = some command := by
  have params : Json.list? readParam? (levels + 2)
      (.array (command.params.map fun param => .record [("name", .text param)]))
      = some (command.params.map id) :=
    Json.list?_array fun param _ => readParam?_toJson levels param
  have type : readParams? (levels + 3) (Json.record [("params", .array
      (command.params.map fun param => .record [("name", .text param)]))])
      = some command.params := by
    rw [readParams?, Json.fields?_record (by simp) (by simp)]
    simp only [Option.bind_eq_bind, Option.bind_some]
    rw [Json.Fields.readD_of_lookup rfl, params, List.map_id]
  rw [readCommand?, Command.toJson, Json.fields?_record (by simp) (by simp)]
  simp only [Option.bind_eq_bind, Option.bind_some]
  rw [Json.Fields.require_of_lookup rfl, Json.text?_text, Json.Fields.require_of_lookup rfl, type]
  rfl

theorem Component.read?_toJson {component : NativeViews.Component} {levels : Nat}
    (fits : ∀ prop ∈ component.props, prop.type.arrayLevels < levels + 3) (source : Source) :
    read? source (levels + 6) component.toJson = some (.ofTyped component) := by
  obtain ⟨props, events, commands, bases, paperName, legacyName⟩ := component
  have propsRead : Json.list? Property.read? (levels + 5)
      (.array (props.map NativeViews.Property.toJson)) = some (props.map .ofTyped) :=
    Json.list?_array fun prop member => Property.read?_toJson (fits prop member)
  have eventsRead : Json.list? (readEvent? source) (levels + 5) (.array (events.map Event.toJson))
      = some (events.map id) :=
    Json.list?_array fun event _ => readEvent?_toJson source _ event
  have commandsRead : Json.list? readCommand? (levels + 5) (.array (commands.map Command.toJson))
      = some (commands.map id) :=
    Json.list?_array fun command _ => readCommand?_toJson levels command
  have basesRead : Json.list? Base.read? (levels + 5)
      (.array (bases.map NativeViews.Base.toJson)) = some (bases.map .ofTyped) :=
    Json.list?_array fun base _ => Base.read?_toJson (.ofTyped base) _
  rw [read?, NativeViews.Component.toJson, Json.fields?_record
    (by cases paperName <;> cases legacyName <;> simp [optionalMember])
    (by cases paperName <;> cases legacyName <;> simp [optionalMember])]
  simp only [Option.bind_eq_bind, Option.bind_some]
  rw [Json.Fields.readD_of_lookup rfl, propsRead, Json.Fields.readD_of_lookup rfl, eventsRead,
    Json.Fields.readD_of_lookup rfl, commandsRead, Json.Fields.readD_of_lookup rfl, basesRead,
    Json.Fields.read?_optional paperName (by cases paperName <;> cases legacyName <;> rfl),
    Json.Fields.read?_optional legacyName (by cases paperName <;> cases legacyName <;> rfl),
    List.map_id, List.map_id]
  rfl

end Wire

end NativeViews
