import NativeViews.Proofs.Json.Likeness
import NativeViews.Proofs.Schema.FirstFailure

/-!
What a reader of schemas sees of a document: the known members of every record, in whatever order
they come. Only maps keep the order of their members.
-/

namespace NativeViews.Wire

open Json (RecordAlike ListAlike EntriesAlike Barred Respects Faithful bind_eq_bind)

/-! ## What may differ -/

/-- The records below a schema. -/
inductive Record where
  | module
  | component
  | prop
  | type
  | base
  | event
  | command
  | params
  | param

/-- What stands under a key that a record knows: a value without records, a record, a list of
records, or a map of records. -/
inductive Shape where
  | value
  | record (kind : Record)
  | list (kind : Record)
  | entries (kind : Record)

/-- The keys that a record knows. A module knows its components if its type says that it has
some. -/
def Record.fields : Record → Json → List (String × Shape)
  | module, json =>
    ("type", .value) ::
      if (Module.tagged? json).map Prod.fst = some Module.componentType then
        [("components", .entries component)]
      else []
  | component, _ => [("props", .list prop), ("events", .list event), ("commands", .list command),
      ("extendsProps", .list base), ("paperComponentName", .value),
      ("paperComponentNameDeprecated", .value)]
  | prop, _ => [("name", .value), ("typeAnnotation", .record type)]
  | type, _ => [("type", .value), ("name", .value), ("elementType", .record type)]
  | base, _ => [("type", .value), ("knownTypeName", .value)]
  | event, _ => [("name", .value), ("bubblingType", .value),
      ("paperTopLevelNameDeprecated", .value)]
  | command, _ => [("name", .value), ("typeAnnotation", .record params)]
  | params, _ => [("params", .list param)]
  | param, _ => [("name", .value)]

/-- Whether two values of one shape differ in nothing but the order of the members of records and
members under unknown keys, which are sound. Brackets that may not be opened hide what differs. -/
def Shape.Alike : Nat → Shape → Json → Json → Prop
  | _, .value => Eq
  | 0, _ => Barred
  | levels + 1, .record kind => fun json other =>
    RecordAlike (·.isSound levels = true)
      ((kind.fields json).map fun field => (field.1, Alike levels field.2)) json other
  | levels + 1, .list kind => ListAlike (Alike levels (.record kind))
  | levels + 1, .entries kind => EntriesAlike (Alike levels (.record kind))

/-- Whether two schemas differ in nothing but the order of the members of records and members under
unknown keys. -/
def Schema.Alike : Nat → Json → Json → Prop
  | 0 => Barred
  | levels + 1 => RecordAlike (fun _ => True) [("modules", Shape.Alike levels (.entries .module))]

namespace Shape

theorem alike_value (levels : Nat) : Alike levels value = Eq := by
  cases levels <;> rfl

theorem Alike.barred {levels : Nat} {shape : Shape} {json other : Json}
    (alike : Alike levels shape json other) : Barred json other := by
  cases levels with
  | zero =>
    cases shape with
    | value => exact .inl alike
    | record | list | entries => exact alike
  | succ levels =>
    cases shape with
    | value => exact .inl alike
    | record => exact RecordAlike.barred alike
    | list => exact ListAlike.barred alike
    | entries => exact EntriesAlike.barred alike

theorem Alike.faithful (levels : Nat) (shape : Shape) : Faithful levels (Alike levels shape) := by
  -- All shapes at once, since whatever a value holds lies one level below it.
  induction levels generalizing shape with
  | zero => exact fun json other alike => alike.barred.isSound_eq
  | succ levels ih =>
    cases shape with
    | value => exact fun json other same => congrArg (Json.isSound (levels + 1)) same
    | record kind =>
      intro json other alike
      refine RecordAlike.faithful ?_ json other alike
      intro entry inside
      obtain ⟨field, _, rfl⟩ := List.mem_map.mp inside
      exact ih field.2
    | list kind => exact ListAlike.faithful (ih (.record kind))
    | entries kind => exact EntriesAlike.faithful (ih (.record kind))

/-! ## Records -/

theorem respects_value {α : Type} (levels : Nat) (read : Json → Option α) :
    Respects (Alike levels .value) read := by
  rw [alike_value]
  exact Json.respects_eq read

section Texts

variable {table : Json.Table} {fields others : Json.Fields} {name : String} {levels : Nat}

theorem require_text (agrees : table.Agrees fields others)
    (known : table.lookup name = some (Alike levels .value)) :
    fields.require name Json.text? = others.require name Json.text? :=
  agrees.require known (respects_value levels Json.text?)

theorem read?_text (agrees : table.Agrees fields others)
    (known : table.lookup name = some (Alike levels .value)) :
    fields.read? name Json.text? = others.read? name Json.text? :=
  agrees.read? known (fun _ _ => Alike.barred) (respects_value levels Json.text?)

end Texts

theorem respects_list {α : Type} {kind : Record} {read : Nat → Json → Option α}
    (respects : ∀ levels, Respects (Alike levels (.record kind)) (read levels)) (levels : Nat) :
    Respects (Alike levels (.list kind)) (Json.list? read levels) := by
  cases levels with
  | zero => exact fun _ _ _ => rfl
  | succ levels => exact ListAlike.respects (respects levels)

theorem respects_entries {α : Type} {kind : Record} {read : Nat → Json → Option α}
    (respects : ∀ levels, Respects (Alike levels (.record kind)) (read levels)) (levels : Nat) :
    Respects (Alike levels (.entries kind)) (Json.entries? read levels) := by
  cases levels with
  | zero => exact fun _ _ _ => rfl
  | succ levels => exact EntriesAlike.respects (respects levels)

theorem respects_param (levels : Nat) :
    Respects (Alike levels (.record .param)) (readParam? levels) := by
  intro json other alike
  cases levels with
  | zero => rfl
  | succ levels =>
    refine RecordAlike.bind_eq alike fun fields others agrees => ?_
    exact require_text agrees rfl

theorem respects_params (levels : Nat) :
    Respects (Alike levels (.record .params)) (readParams? levels) := by
  intro json other alike
  cases levels with
  | zero => rfl
  | succ levels =>
    refine RecordAlike.bind_eq alike fun fields others agrees => ?_
    exact agrees.readD rfl (respects_list respects_param levels) []

theorem respects_command (levels : Nat) :
    Respects (Alike levels (.record .command)) (readCommand? levels) := by
  intro json other alike
  cases levels with
  | zero => rfl
  | succ levels =>
    refine RecordAlike.bind_eq alike fun fields others agrees => ?_
    refine bind_eq_bind (require_text agrees rfl) fun name => ?_
    exact bind_eq_bind (agrees.require rfl (respects_params levels)) fun _ => rfl

theorem respects_event (source : Source) (levels : Nat) :
    Respects (Alike levels (.record .event)) (readEvent? source levels) := by
  intro json other alike
  cases levels with
  | zero => rfl
  | succ levels =>
    refine RecordAlike.bind_eq alike fun fields others agrees => ?_
    refine bind_eq_bind (require_text agrees rfl) fun name => ?_
    refine bind_eq_bind (agrees.require rfl (respects_value levels _)) fun travel => ?_
    exact bind_eq_bind (read?_text agrees rfl) fun _ => rfl

theorem respects_base (levels : Nat) :
    Respects (Alike levels (.record .base)) (Base.read? levels) := by
  intro json other alike
  cases levels with
  | zero => rfl
  | succ levels =>
    refine RecordAlike.bind_eq alike fun fields others agrees => ?_
    refine bind_eq_bind (require_text agrees rfl) fun kind => ?_
    exact bind_eq_bind (agrees.readD rfl (respects_value levels Json.text?) "") fun _ => rfl

theorem respects_type (levels : Nat) :
    Respects (Alike levels (.record .type)) (PropType.read? levels) := by
  induction levels with
  | zero => exact fun _ _ _ => rfl
  | succ levels ih =>
    intro json other alike
    refine RecordAlike.bind_eq alike fun fields others agrees => ?_
    refine bind_eq_bind (require_text agrees rfl) fun kind => ?_
    refine bind_eq_bind (read?_text agrees rfl) fun name => ?_
    exact bind_eq_bind (agrees.read? rfl (fun _ _ => Alike.barred) ih) fun _ => rfl

theorem respects_prop (levels : Nat) :
    Respects (Alike levels (.record .prop)) (Property.read? levels) := by
  intro json other alike
  cases levels with
  | zero => rfl
  | succ levels =>
    refine RecordAlike.bind_eq alike fun fields others agrees => ?_
    refine bind_eq_bind (require_text agrees rfl) fun name => ?_
    exact bind_eq_bind (agrees.require rfl (respects_type levels)) fun _ => rfl

theorem respects_component (source : Source) (levels : Nat) :
    Respects (Alike levels (.record .component)) (Component.read? source levels) := by
  intro json other alike
  cases levels with
  | zero => rfl
  | succ levels =>
    refine RecordAlike.bind_eq alike fun fields others agrees => ?_
    refine bind_eq_bind (agrees.readD rfl (respects_list respects_prop levels) []) fun props => ?_
    refine bind_eq_bind (agrees.readD rfl (respects_list (respects_event source) levels) [])
      fun events => ?_
    refine bind_eq_bind (agrees.readD rfl (respects_list respects_command levels) [])
      fun commands => ?_
    refine bind_eq_bind (agrees.readD rfl (respects_list respects_base levels) []) fun bases => ?_
    refine bind_eq_bind (read?_text agrees rfl) fun paperName => ?_
    exact bind_eq_bind (read?_text agrees rfl) fun _ => rfl

/-! ## Modules -/

theorem tagged?_object (members : List (Json.Text × Json)) :
    Module.tagged? (.object members) =
      match members.filter (·.1 == some "type") with
      | [(_, tag)] =>
        tag.text?.map fun kind => (kind, .object (members.filter (!·.1 == some "type")))
      | _ => none := by
  rw [Module.tagged?, List.partition_eq_filter_filter]
  generalize members.filter (·.1 == some "type") = named
  rcases named with _ | ⟨_, _ | _⟩ <;> rfl

/-- Modules that are alike have the same type, and what else they hold is alike. -/
theorem tagged?_rel {accepts : Json → Prop} {table : Json.Table} {json other : Json}
    (alike : RecordAlike accepts (("type", Eq) :: table) json other) :
    Option.Rel (fun tagged taggedOther =>
      tagged.1 = taggedOther.1 ∧ RecordAlike accepts table tagged.2 taggedOther.2)
      (Module.tagged? json) (Module.tagged? other) := by
  have retag {rest restOther : Json} (tag : Json)
      (alike : RecordAlike accepts table rest restOther) :
      Option.Rel (fun tagged taggedOther =>
        tagged.1 = taggedOther.1 ∧ RecordAlike accepts table tagged.2 taggedOther.2)
        (tag.text?.map fun kind => (kind, rest)) (tag.text?.map fun kind => (kind, restOther)) := by
    cases tag.text? with
    | none => exact .none
    | some kind => exact .some ⟨rfl, alike⟩
  cases alike with
  | same =>
    cases Module.tagged? json with
    | none => exact .none
    | some tagged => exact .some ⟨rfl, .same⟩
  | items each =>
    cases each with
    | done => exact .none
    | known same rest =>
      obtain rfl := same
      exact retag _ (.items rest)
  | @members members others _ _ keeps keepsOthers each =>
    obtain ⟨same, rest⟩ := (RecordAlike.members keeps keepsOthers each).without
    rw [tagged?_object, tagged?_object]
    generalize members.filter (·.1 == some "type") = named,
      others.filter (·.1 == some "type") = namedOthers at same ⊢
    -- Where the type is missing or repeated, so it is in the other module.
    rcases named with _ | ⟨⟨key, tag⟩, _ | ⟨second, named⟩⟩
    · obtain rfl := same.nil_eq
      exact .none
    · obtain rfl := List.perm_singleton.mp same.symm
      exact retag tag rest
    · have length := same.length_eq
      rcases namedOthers with _ | ⟨_, _ | _⟩
      · simp at length
      · simp at length
      · exact .none

theorem Alike.module {levels : Nat} {json other : Json}
    (alike : Alike (levels + 1) (.record .module) json other) :
    RecordAlike (·.isSound levels = true)
      (("type", Eq) :: if (Module.tagged? json).map Prod.fst = some Module.componentType then
        [("components", Alike levels (.entries .component))] else []) json other := by
  simpa only [Alike, Record.fields, List.map_cons, alike_value, apply_ite (List.map _),
    List.map_nil] using alike

/-- Beside a type that is not that of components, it only counts that no items are left over. -/
theorem respects_other (accepts : Json → Prop) :
    Respects (RecordAlike accepts []) fun
      | .array (_ :: _) => none
      | _ => some ListedModule.other := by
  intro rest restOther alike
  cases alike with
  | same => rfl
  | items each => cases each <;> rfl
  | members => rfl

theorem respects_module (levels : Nat) :
    Respects (Alike levels (.record .module)) (ListedModule.read? levels) := by
  intro json other alike
  rw [ListedModule.read?, ListedModule.read?, Alike.faithful levels _ json other alike]
  split
  · rfl
  · next sound =>
    cases levels with
    | zero =>
      rcases alike with rfl | ⟨_, opened⟩
      · rfl
      · simp [Json.isSound_zero_of_opens opened] at sound
    | succ levels =>
      -- The type settles what else is known, and both modules have the same one.
      have tags := tagged?_rel alike.module
      generalize Module.tagged? json = tagged, Module.tagged? other = taggedOther at tags ⊢
      cases tags with
      | none => rfl
      | @some tagged taggedOther both =>
        obtain ⟨kind, rest⟩ := tagged
        obtain ⟨_, restOther⟩ := taggedOther
        obtain ⟨rfl, alike⟩ := both
        simp only [Option.map_some, Option.some.injEq] at alike
        by_cases parts : kind = Module.componentType
        · rw [if_pos parts] at alike
          simp only [Option.bind_eq_bind, Option.bind_some, if_pos parts]
          refine RecordAlike.bind_eq alike fun fields others agrees => ?_
          exact bind_eq_bind (agrees.require rfl
            (respects_entries (respects_component .kept) levels)) fun _ => rfl
        · rw [if_neg parts] at alike
          simp only [Option.bind_eq_bind, Option.bind_some, if_neg parts]
          exact respects_other _ rest restOther alike

end Shape

/-! ## Schemas -/

theorem Listing.respects_read (levels : Nat) :
    Respects (Schema.Alike levels) (Listing.read? levels) := by
  intro json other alike
  cases levels with
  | zero => rfl
  | succ levels =>
    refine RecordAlike.bind_eq alike fun fields others agrees => ?_
    exact agrees.require rfl (Shape.respects_entries Shape.respects_module levels)

end NativeViews.Wire

namespace NativeViews

/-! ## Texts -/

section Documents

variable [Libraries] {text other : String} {document documentOther : Json}

/-- Of two texts whose documents differ in nothing but the order of the members of records and
members under unknown keys, either both cannot be read, which is reported of each by its own
cause, line and column, or they come to the same, be it a schema or a failure. -/
theorem Schema.ofText_agrees_of_alike (parsed : Json.parse? text = some document)
    (parsedOther : Json.parse? other = some documentOther)
    (alike : Wire.Schema.Alike Json.depthLimit document documentOther) :
    Schema.ofText text = Schema.ofText other ∨
      Schema.ofText text = .error (.malformedJson (Libraries.json .schema text)) ∧
      Schema.ofText other = .error (.malformedJson (Libraries.json .schema other)) := by
  have same : Wire.Listing.ofText? text = Wire.Listing.ofText? other := by
    rw [Wire.Listing.ofText?, Wire.Listing.ofText?, parsed, parsedOther]
    exact Wire.Listing.respects_read _ _ _ alike
  cases listed : Wire.Listing.ofText? other with
  | none => exact .inr ⟨ofText_of_unlisted (same.trans listed), ofText_of_unlisted listed⟩
  | some listing =>
    exact .inl ((ofText_of_listed (same.trans listed)).trans (ofText_of_listed listed).symm)

end Documents

theorem Schema.ofText_agrees_of_alike_noted :
    ∃ _ : Libraries,
      Schema.ofText
          "\x7b\"modules\":\x7b\"M\":\x7b\"type\":\"Component\",\"components\":\x7b\"C\":\x7b\x7d\x7d\x7d\x7d\x7d"
        = .ok ⟨.ofList [("M", .components (.ofList [("C", {})]))]⟩ ∧
      Schema.ofText
          "\x7b\"modules\":\x7b\"M\":\x7b\"components\":\x7b\"C\":\x7b\"note\":0\x7d\x7d,\"type\":\"Component\"\x7d\x7d\x7d"
        = .ok ⟨.ofList [("M", .components (.ofList [("C", {})]))]⟩ := by
  let libraries : Libraries := .silent
  let kind : Json.Text × Json := (some "type", .text "Component")
  let note : Json.Text × Json := (some "note", .int 0)
  have component : Wire.Shape.Alike 123 (.record .component) (.object []) (.object [note]) :=
    Json.RecordAlike.members (.self (by decide)) ⟨by decide, [note], .refl _, by
      simpa using ⟨"note", rfl, by decide, by decide⟩⟩ .nil
  let held : Json.Text × Json := (some "components", .object [(some "C", .object [])])
  let noted : Json.Text × Json := (some "components", .object [(some "C", .object [note])])
  have module : Wire.Shape.Alike 125 (.record .module) (.object [kind, held])
      (.object [noted, kind]) :=
    @Json.RecordAlike.members _ _ _ _ _ [kind, noted] (.self (by decide))
      ⟨by decide, [], .swap .., by simp⟩
      (.cons ⟨rfl, rfl⟩ (.cons ⟨rfl, .members (.cons ⟨rfl, component⟩ .nil)⟩ .nil))
  have alike : Wire.Schema.Alike Json.depthLimit
      (.object [(some "modules", .object [(some "M", .object [kind, held])])])
      (.object [(some "modules", .object [(some "M", .object [noted, kind])])]) :=
    Json.RecordAlike.members (.self (by decide)) (.self (by decide))
      (.cons ⟨rfl, Json.EntriesAlike.members (.cons ⟨rfl, module⟩ .nil)⟩ .nil)
  have parsed : Json.parse?
      "\x7b\"modules\":\x7b\"M\":\x7b\"type\":\"Component\",\"components\":\x7b\"C\":\x7b\x7d\x7d\x7d\x7d\x7d"
        = some (.object [(some "modules", .object [(some "M", .object [kind, held])])]) := by
    with_unfolding_all rfl
  have listed : Wire.Listing.read? Json.depthLimit
      (.object [(some "modules", .object [(some "M", .object [kind, held])])])
        = some [("M", .components [("C", {})])] := by
    with_unfolding_all rfl
  have converted : (Wire.Listing.toSchema [("M", .components [("C", {})])]).convert
      = .ok ⟨.ofList [("M", .components (.ofList [("C", {})]))]⟩ := by
    with_unfolding_all rfl
  have read := (Schema.ofText_of_listed (Option.bind_eq_some_iff.mpr ⟨_, parsed, listed⟩)).trans
    converted
  refine ⟨libraries, read, Eq.trans (Eq.symm ?_) read⟩
  refine (Schema.ofText_agrees_of_alike parsed (by with_unfolding_all rfl) alike).resolve_right ?_
  rintro ⟨unread, -⟩
  cases read.symm.trans unread

/-- Texts that cannot be read need not fail alike: what is reported says how far a text had been
read, and so depends on members that no record knows. -/
theorem Schema.not_ofText_eq_of_alike :
    ∃ (_ : Libraries) (document other : Json),
      Json.parse? "\x7b\x7d" = some document ∧
      Json.parse? "\x7b\"note\":0\x7d" = some other ∧
      Wire.Schema.Alike Json.depthLimit document other ∧
      Schema.ofText "\x7b\x7d" = .error (.malformedJson ⟨"missing field `modules`", 1, 2⟩) ∧
      Schema.ofText "\x7b\"note\":0\x7d"
        = .error (.malformedJson ⟨"missing field `modules`", 1, 10⟩) := by
  let note : Json.Text × Json := (some "note", .int 0)
  have alike : Wire.Schema.Alike Json.depthLimit (.object []) (.object [note]) :=
    Json.RecordAlike.members (.self (by decide)) ⟨by decide, [note], .refl _, by
      simpa using ⟨"note", rfl, by decide, by decide⟩⟩ .nil
  let libraries : Libraries :=
    ⟨fun _ text => ⟨"missing field `modules`", 1, text.utf8ByteSize⟩, fun _ => ""⟩
  exact ⟨libraries, .object [], .object [note], by with_unfolding_all rfl,
    by with_unfolding_all rfl, alike, Schema.ofText_of_unlisted (by with_unfolding_all rfl),
    Schema.ofText_of_unlisted (by with_unfolding_all rfl)⟩

end NativeViews
