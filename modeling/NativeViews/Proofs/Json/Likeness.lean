import NativeViews.Proofs.Json.Records
import NativeViews.Proofs.OrderedMap
import NativeViews.Proofs.Outcome

/-!
Documents that differ where a record does not look: in the order of its members, and in members
under keys that it does not know. Where a reader of the values cannot tell them apart, a reader of
the records cannot either.
-/

namespace NativeViews.Json

variable {α : Type}

/-! ## Values that may differ -/

/-- Whether a value is an array or an object. -/
def opens : Json → Bool
  | .scalar _ => false
  | _ => true

/-- Whether values are the same to a reader that looks at no part of an array or object. -/
def Barred (json other : Json) : Prop :=
  json = other ∨ json.opens = true ∧ other.opens = true

/-- The keys that a record knows, and how the values under each may differ. -/
abbrev Table := List (String × (Json → Json → Prop))

/-- The known keys. -/
abbrev Table.names (table : Table) : List String :=
  table.map Prod.fst

/-- How the values under a key may differ. Under a key that is not known they are the same. -/
def Table.at (table : Table) (key : Text) : Json → Json → Prop :=
  (key.bind (table.lookup ·)).getD Eq

/-- Whether a member is passed over: its key is not known, and its value is accepted. -/
def Table.Passes (table : Table) (accepts : Json → Prop) (member : Text × Json) : Prop :=
  ∃ key, member.1 = some key ∧ key ∉ table.names ∧ accepts member.2

/-- Whether items differ as the values under the known keys may, one after the other. -/
inductive ItemsAlike : Table → List Json → List Json → Prop
  | done {table : Table} : ItemsAlike table [] []
  | known {key : String} {alike : Json → Json → Prop} {table : Table} {item other : Json}
      {items others : List Json} (first : alike item other)
      (rest : ItemsAlike table items others) :
      ItemsAlike ((key, alike) :: table) (item :: items) (other :: others)
  | beyond {items : List Json} : ItemsAlike [] items items

/-- Whether the members of an object stand under distinct keys and are, in any order, those that
are kept and some that are passed over. -/
structure Table.Keeps (table : Table) (accepts : Json → Prop)
    (members kept : List (Text × Json)) : Prop where
  distinct : (members.filterMap Prod.fst).Nodup
  order : ∃ extra, members.Perm (kept ++ extra) ∧ ∀ member ∈ extra, table.Passes accepts member

/-- Whether records differ in nothing but the order of their members, members that are passed
over, and what the table allows. -/
inductive RecordAlike (accepts : Json → Prop) (table : Table) : Json → Json → Prop
  | same {json : Json} : RecordAlike accepts table json json
  | items {items others : List Json} (each : ItemsAlike table items others) :
      RecordAlike accepts table (.array items) (.array others)
  | members {members others kept keptOthers : List (Text × Json)}
      (keeps : table.Keeps accepts members kept)
      (keepsOthers : table.Keeps accepts others keptOthers)
      (each : List.Forall₂ (fun member other =>
        member.1 = other.1 ∧ table.at member.1 member.2 other.2) kept keptOthers) :
      RecordAlike accepts table (.object members) (.object others)

/-- Whether lists differ in nothing but their items. -/
inductive ListAlike (alike : Json → Json → Prop) : Json → Json → Prop
  | same {json : Json} : ListAlike alike json json
  | items {items others : List Json} (each : List.Forall₂ alike items others) :
      ListAlike alike (.array items) (.array others)

/-- Whether maps differ in nothing but the values under their keys. -/
inductive EntriesAlike (alike : Json → Json → Prop) : Json → Json → Prop
  | same {json : Json} : EntriesAlike alike json json
  | members {members others : List (Text × Json)}
      (each : List.Forall₂ (fun member other =>
        member.1 = other.1 ∧ alike member.2 other.2) members others) :
      EntriesAlike alike (.object members) (.object others)

theorem RecordAlike.barred {accepts : Json → Prop} {table : Table} {json other : Json}
    (alike : RecordAlike accepts table json other) : Barred json other := by
  cases alike with
  | same => exact .inl rfl
  | items | members => exact .inr ⟨rfl, rfl⟩

theorem ListAlike.barred {related : Json → Json → Prop} {json other : Json}
    (alike : ListAlike related json other) : Barred json other := by
  cases alike with
  | same => exact .inl rfl
  | items => exact .inr ⟨rfl, rfl⟩

theorem EntriesAlike.barred {related : Json → Json → Prop} {json other : Json}
    (alike : EntriesAlike related json other) : Barred json other := by
  cases alike with
  | same => exact .inl rfl
  | members => exact .inr ⟨rfl, rfl⟩

/-! ## Members that are kept -/

namespace Table.Keeps

variable {table : Table} {accepts : Json → Prop} {members kept : List (Text × Json)}

theorem self (distinct : (members.filterMap Prod.fst).Nodup) :
    table.Keeps accepts members members :=
  ⟨distinct, [], by simp, by simp⟩

theorem mem_of_mem (keeps : table.Keeps accepts members kept) {member : Text × Json}
    (held : member ∈ kept) : member ∈ members := by
  obtain ⟨extra, order, _⟩ := keeps.order
  exact order.mem_iff.mpr (List.mem_append_left extra held)

theorem passes_or_mem (keeps : table.Keeps accepts members kept) {member : Text × Json}
    (inside : member ∈ members) : table.Passes accepts member ∨ member ∈ kept := by
  obtain ⟨extra, order, passed⟩ := keeps.order
  exact (List.mem_append.mp (order.mem_iff.mp inside)).symm.imp_left (passed member)

/-- A test that members meet where they are passed over depends on those that are kept. -/
theorem all_eq (keeps : table.Keeps accepts members kept) {test : Text × Json → Bool}
    (met : ∀ member, table.Passes accepts member → test member = true) :
    members.all test = kept.all test := by
  obtain ⟨extra, order, passed⟩ := keeps.order
  rw [order.all_eq, List.all_append,
    List.all_eq_true.mpr fun member inside => met member (passed member inside), Bool.and_true]

/-- The members under a known key are among those that are kept. -/
theorem filter_perm (keeps : table.Keeps accepts members kept) {key : String}
    (known : key ∈ table.names) :
    (members.filter (·.1 == some key)).Perm (kept.filter (·.1 == some key)) := by
  obtain ⟨extra, order, passed⟩ := keeps.order
  have none : extra.filter (·.1 == some key) = [] := by
    rw [List.filter_eq_nil_iff]
    intro member inside same
    obtain ⟨other, found, unknown, _⟩ := passed member inside
    rw [found, beq_iff_eq, Option.some.injEq] at same
    exact unknown (same ▸ known)
  simpa [none] using order.filter (·.1 == some key)

/-- The members under one key may be taken out, and the key with them. -/
theorem without {key : String} {alike : Json → Json → Prop}
    (keeps : Table.Keeps ((key, alike) :: table) accepts members kept) :
    table.Keeps accepts (members.filter (!·.1 == some key)) (kept.filter (!·.1 == some key)) := by
  obtain ⟨extra, order, passed⟩ := keeps.order
  refine ⟨(List.filter_sublist.filterMap Prod.fst).nodup keeps.distinct,
    extra.filter (!·.1 == some key), ?_, fun member inside => ?_⟩
  · simpa using order.filter (!·.1 == some key)
  · obtain ⟨other, found, unknown, accepted⟩ := passed member (List.mem_of_mem_filter inside)
    exact ⟨other, found, fun known => unknown (List.mem_cons_of_mem key known), accepted⟩

end Table.Keeps

/-! ## Soundness -/

theorem all_eq_of_forall₂ {β : Type} {values others : List β} {test : β → Bool}
    (each : List.Forall₂ (fun value other => test value = test other) values others) :
    values.all test = others.all test := by
  have same := congrArg (List.all · id) (map_eq_of_forall₂ each)
  simpa only [List.all_map, Function.id_comp] using same

theorem isSound_object (levels : Nat) (members : List (Text × Json)) :
    isSound (levels + 1) (.object members) = members.all (isMemberSound levels) := by
  rw [isSound]
  induction members with
  | nil => rfl
  | cons member members ih => rw [areMembersSound, ih, List.all_cons]

theorem isSound_zero_of_opens {json : Json} (opened : json.opens = true) :
    json.isSound 0 = false := by
  cases json with
  | scalar value => exact nomatch opened
  | array items => rfl
  | object members => rfl

theorem Barred.isSound_eq {json other : Json} (alike : Barred json other) :
    json.isSound 0 = other.isSound 0 := by
  rcases alike with rfl | ⟨opened, otherOpened⟩
  · rfl
  · rw [isSound_zero_of_opens opened, isSound_zero_of_opens otherOpened]

/-- Whether related values are sound together. -/
def Faithful (levels : Nat) (alike : Json → Json → Prop) : Prop :=
  ∀ json other, alike json other → json.isSound levels = other.isSound levels

theorem ListAlike.faithful {alike : Json → Json → Prop} {levels : Nat}
    (faithful : Faithful levels alike) : Faithful (levels + 1) (ListAlike alike) := by
  rintro _ _ (_ | ⟨each⟩)
  · rfl
  · rw [isSound_array, isSound_array]
    exact all_eq_of_forall₂ (each.imp faithful)

theorem isMemberSound_eq {levels : Nat} {member other : Text × Json} (key : member.1 = other.1)
    (value : member.2.isSound levels = other.2.isSound levels) :
    isMemberSound levels member = isMemberSound levels other := by
  rw [isMemberSound, isMemberSound, key, value]

theorem EntriesAlike.faithful {alike : Json → Json → Prop} {levels : Nat}
    (faithful : Faithful levels alike) : Faithful (levels + 1) (EntriesAlike alike) := by
  rintro _ _ (_ | ⟨each⟩)
  · rfl
  · rw [isSound_object, isSound_object]
    exact all_eq_of_forall₂ (each.imp fun _ _ both =>
      isMemberSound_eq both.1 (faithful _ _ both.2))

theorem ItemsAlike.all_eq {table : Table} {levels : Nat}
    (faithful : ∀ entry ∈ table, Faithful levels entry.2) {items others : List Json}
    (alike : ItemsAlike table items others) :
    items.all (isSound levels) = others.all (isSound levels) := by
  induction alike with
  | done => rfl
  | known first _ ih =>
    obtain ⟨here, later⟩ := List.forall_mem_cons.mp faithful
    rw [List.all_cons, List.all_cons, here _ _ first, ih later]
  | beyond => rfl

theorem Table.mem_of_lookup {table : Table} {name : String} {alike : Json → Json → Prop}
    (known : table.lookup name = some alike) : (name, alike) ∈ table := by
  obtain ⟨before, after, split, _⟩ := List.lookup_eq_some_iff.mp known
  simp [split]

theorem Table.faithful_at {table : Table} {levels : Nat}
    (faithful : ∀ entry ∈ table, Faithful levels entry.2) (key : Text) :
    Faithful levels (table.at key) := by
  rw [Table.at]
  cases found : key.bind (table.lookup ·) with
  | none => exact fun _ _ same => congrArg (isSound levels) same
  | some alike =>
    obtain ⟨name, _, here⟩ := Option.bind_eq_some_iff.mp found
    exact faithful (name, alike) (mem_of_lookup here)

theorem Table.Passes.isMemberSound {table : Table} {levels : Nat} {member : Text × Json}
    (passes : table.Passes (·.isSound levels = true) member) :
    isMemberSound levels member = true := by
  obtain ⟨key, same, _, accepted⟩ := passes
  rw [Json.isMemberSound, same, accepted]
  rfl

/-- Records are sound together if what they pass over is sound. -/
theorem RecordAlike.faithful {table : Table} {levels : Nat}
    (faithful : ∀ entry ∈ table, Faithful levels entry.2) :
    Faithful (levels + 1) (RecordAlike (·.isSound levels = true) table) := by
  intro json other alike
  cases alike with
  | same => rfl
  | items each => rw [isSound_array, isSound_array, each.all_eq faithful]
  | members keeps keepsOthers each =>
    rw [isSound_object, isSound_object, keeps.all_eq fun _ => Table.Passes.isMemberSound,
      keepsOthers.all_eq fun _ => Table.Passes.isMemberSound]
    refine all_eq_of_forall₂ (each.imp fun member other both => ?_)
    exact isMemberSound_eq both.1 (Table.faithful_at faithful member.1 _ _ both.2)

/-! ## Reading -/

/-- Whether a reader cannot tell related values apart. -/
def Respects (alike : Json → Json → Prop) (read : Json → Option α) : Prop :=
  ∀ json other, alike json other → read json = read other

theorem respects_eq (read : Json → Option α) : Respects Eq read :=
  fun _ _ same => congrArg read same

theorem mapM_eq_of_forall₂ {β : Type} {values others : List β} {read : β → Option α}
    (each : List.Forall₂ (fun value other => read value = read other) values others) :
    values.mapM read = others.mapM read := by
  have same := congrArg (List.mapM id) (map_eq_of_forall₂ each)
  simpa only [List.mapM_map, Function.id_comp] using same

theorem ListAlike.respects {alike : Json → Json → Prop} {read : Nat → Json → Option α}
    {levels : Nat} (respects : Respects alike (read levels)) :
    Respects (ListAlike alike) (list? read (levels + 1)) := by
  rintro _ _ (_ | ⟨each⟩)
  · rfl
  · exact mapM_eq_of_forall₂ (each.imp respects)

theorem EntriesAlike.respects {alike : Json → Json → Prop} {read : Nat → Json → Option α}
    {levels : Nat} (respects : Respects alike (read levels)) :
    Respects (EntriesAlike alike) (entries? read (levels + 1)) := by
  rintro _ _ (_ | ⟨each⟩)
  · rfl
  · refine mapM_eq_of_forall₂ (each.imp ?_)
    rintro ⟨key, value⟩ ⟨_, other⟩ ⟨rfl, related⟩
    simp only [respects value other related]

/-! ### Fields -/

/-- Whether fields differ as the table allows. -/
def Table.Agrees (table : Table) (fields others : Fields) : Prop :=
  ∀ name alike, table.lookup name = some alike →
    Option.Rel alike (fields.lookup name) (others.lookup name)

/-- Members with distinct texts for keys hold the fields with known names. -/
theorem Fields.ofMembers_of_distinct (names : List String) {members : List (Text × Json)}
    (distinct : (members.filterMap Prod.fst).Nodup) (texts : members.all (·.1.isSome) = true) :
    ∃ fields, ofMembers names members = some fields ∧
      ∀ name value, fields.lookup name = some value ↔
        name ∈ names ∧ (some name, value) ∈ members := by
  induction members with
  | nil => exact ⟨[], rfl, by simp⟩
  | cons member members ih =>
    obtain ⟨_ | key, value⟩ := member
    · exact nomatch texts
    · obtain ⟨fresh, distinct⟩ : key ∉ members.filterMap Prod.fst ∧ _ := List.nodup_cons.mp distinct
      obtain ⟨fields, built, found⟩ := ih distinct texts
      -- No later member can take the place of this one.
      have absent (held : Json) : (some key, held) ∉ members := fun inside =>
        fresh (List.mem_filterMap.mpr ⟨_, inside, rfl⟩)
      by_cases known : key ∈ names
      · have unread : fields.lookup key = none :=
          Option.eq_none_iff_forall_ne_some.mpr fun held same =>
            absent held ((found key held).mp same).2
        refine ⟨(key, value) :: fields, by simp [ofMembers, built, known, unread], ?_⟩
        intro name held
        rw [OrderedMap.lookup_entry_cons]
        by_cases same : name = key
        · subst same
          simp [known, absent, eq_comm]
        · simp [same, found]
      · refine ⟨fields, by simp [ofMembers, built, known], fun name held => ?_⟩
        rw [found, List.mem_cons, Prod.mk.injEq, Option.some.injEq]
        refine and_congr_right fun listed => (or_iff_right ?_).symm
        exact fun same => known (same.1 ▸ listed)

theorem Fields.ofMembers_of_keyless (names : List String) {members : List (Text × Json)}
    (keyless : members.all (·.1.isSome) = false) : ofMembers names members = none := by
  induction members with
  | nil => exact nomatch keyless
  | cons member members ih =>
    obtain ⟨_ | key, value⟩ := member
    · rfl
    · rw [ofMembers, ih keyless]
      rfl

/-- What is found under a known key is among the members that are kept. -/
theorem Table.Keeps.lookup_eq_some_iff {table : Table} {accepts : Json → Prop}
    {members kept : List (Text × Json)} (keeps : table.Keeps accepts members kept)
    {fields : Fields} (found : ∀ name value, fields.lookup name = some value ↔
      name ∈ table.names ∧ (some name, value) ∈ members)
    {name : String} (known : name ∈ table.names) (value : Json) :
    fields.lookup name = some value ↔ (some name, value) ∈ kept := by
  rw [found, and_iff_right known]
  refine ⟨fun inside => (keeps.passes_or_mem inside).resolve_left ?_, keeps.mem_of_mem⟩
  rintro ⟨_, same, unknown, _⟩
  exact unknown (Option.some.inj same ▸ known)

theorem Table.agrees_of_forall₂ {table : Table} {kept keptOthers : List (Text × Json)}
    {fields others : Fields}
    (each : List.Forall₂ (fun member other =>
      member.1 = other.1 ∧ table.at member.1 member.2 other.2) kept keptOthers)
    (found : ∀ name ∈ table.names, ∀ value, fields.lookup name = some value ↔
      (some name, value) ∈ kept)
    (foundOthers : ∀ name ∈ table.names, ∀ value, others.lookup name = some value ↔
      (some name, value) ∈ keptOthers) : table.Agrees fields others := by
  intro name alike known
  have listed : name ∈ table.names := List.mem_map_of_mem (mem_of_lookup known)
  cases here : fields.lookup name with
  | some value =>
    have held := (found name listed value).mp here
    obtain ⟨⟨_, other⟩, heldOther, rfl, differs⟩ := exists_of_forall₂ each.flip _ held
    rw [(foundOthers name listed other).mpr heldOther]
    rw [Table.at, Option.bind_some, known] at differs
    exact .some differs
  | none =>
    cases there : others.lookup name with
    | none => exact .none
    | some other =>
      have heldOther := (foundOthers name listed other).mp there
      obtain ⟨⟨_, value⟩, held, rfl, _⟩ := exists_of_forall₂ each _ heldOther
      rw [(found name listed value).mpr held] at here
      exact nomatch here

theorem ItemsAlike.agrees {table : Table} {items others : List Json}
    (alike : ItemsAlike table items others) :
    table.Agrees (table.names.zip items) (table.names.zip others) := by
  intro name related known
  induction alike with
  | done =>
    rw [List.zip_nil_right]
    exact .none
  | @known key here table item other items others first _ ih =>
    simp only [List.map_cons, List.zip_cons_cons, OrderedMap.lookup_entry_cons] at known ⊢
    by_cases same : name = key
    · rw [if_pos same, Option.some.injEq] at known
      rw [if_pos same, if_pos same]
      exact .some (known ▸ first)
    · rw [if_neg same] at known
      rw [if_neg same, if_neg same]
      exact ih known
  | beyond => exact nomatch known

theorem ItemsAlike.length_eq {table : Table} {items others : List Json}
    (alike : ItemsAlike table items others) : items.length = others.length := by
  induction alike with
  | done => rfl
  | known _ _ ih => rw [List.length_cons, List.length_cons, ih]
  | beyond => rfl

/-- Of records that are alike, the known fields can be read in both or in neither, and differ as
the table allows. -/
theorem RecordAlike.fields? {accepts : Json → Prop} {table : Table} {json other : Json}
    (alike : RecordAlike accepts table json other) :
    json.fields? table.names = other.fields? table.names ∨
      ∃ fields others, json.fields? table.names = some fields ∧
        other.fields? table.names = some others ∧ table.Agrees fields others := by
  cases alike with
  | same => exact .inl rfl
  | @items items others each =>
    rw [Json.fields?, Json.fields?, ← each.length_eq]
    by_cases fits : items.length ≤ table.names.length
    · rw [if_pos fits, if_pos fits]
      exact .inr ⟨_, _, rfl, rfl, each.agrees⟩
    · rw [if_neg fits, if_neg fits]
      exact .inl rfl
  | @members members others _ _ keeps keepsOthers each =>
    -- A key that is no text is never passed over, so it spoils both records.
    have named (member : Text × Json) (passes : table.Passes accepts member) :
        member.1.isSome = true := by
      obtain ⟨key, same, _⟩ := passes
      rw [same, Option.isSome_some]
    have keys : members.all (·.1.isSome) = others.all (·.1.isSome) := by
      rw [keeps.all_eq named, keepsOthers.all_eq named]
      exact all_eq_of_forall₂ (each.imp fun member other both => by rw [both.1])
    rw [Json.fields?, Json.fields?]
    cases texts : members.all (·.1.isSome) with
    | true =>
      obtain ⟨fields, built, found⟩ :=
        Fields.ofMembers_of_distinct table.names keeps.distinct texts
      obtain ⟨fieldsOthers, builtOthers, foundOthers⟩ :=
        Fields.ofMembers_of_distinct table.names keepsOthers.distinct (keys ▸ texts)
      exact .inr ⟨fields, fieldsOthers, built, builtOthers, Table.agrees_of_forall₂ each
        (fun _ => keeps.lookup_eq_some_iff found)
        (fun _ => keepsOthers.lookup_eq_some_iff foundOthers)⟩
    | false =>
      rw [Fields.ofMembers_of_keyless table.names texts,
        Fields.ofMembers_of_keyless table.names (keys ▸ texts)]
      exact .inl rfl

/-- What is made of the known fields comes out the same for records that are alike. -/
theorem RecordAlike.bind_eq {accepts : Json → Prop} {table : Table} {json other : Json}
    (alike : RecordAlike accepts table json other) {next : Fields → Option α}
    (agrees : ∀ fields others, table.Agrees fields others → next fields = next others) :
    (json.fields? table.names).bind next = (other.fields? table.names).bind next := by
  rcases alike.fields? with same | ⟨fields, others, here, there, differ⟩
  · rw [same]
  · rw [here, there]
    exact agrees fields others differ

theorem bind_eq_bind {β : Type} {first other : Option α} {next nextOther : α → Option β}
    (same : first = other) (later : ∀ part, next part = nextOther part) :
    first >>= next = other >>= nextOther :=
  same ▸ bind_congr later

section Agreement

variable {table : Table} {fields others : Fields} {name : String} {alike : Json → Json → Prop}

theorem Table.Agrees.require (agrees : table.Agrees fields others)
    (known : table.lookup name = some alike) {read : Json → Option α}
    (respects : Respects alike read) : fields.require name read = others.require name read := by
  have related := agrees name alike known
  rw [Fields.require, Fields.require]
  generalize fields.lookup name = held, others.lookup name = heldOther at related ⊢
  cases related with
  | some related => exact respects _ _ related
  | none => rfl

theorem Table.Agrees.readD (agrees : table.Agrees fields others)
    (known : table.lookup name = some alike) {read : Json → Option α}
    (respects : Respects alike read) (absent : α) :
    fields.readD name read absent = others.readD name read absent := by
  have related := agrees name alike known
  rw [Fields.readD, Fields.readD]
  generalize fields.lookup name = held, others.lookup name = heldOther at related ⊢
  cases related with
  | some related => exact respects _ _ related
  | none => rfl

/-- Values that are alike are null together. -/
theorem Table.Agrees.read? (agrees : table.Agrees fields others)
    (known : table.lookup name = some alike) {read : Json → Option α}
    (barred : ∀ json other, alike json other → Barred json other)
    (respects : Respects alike read) : fields.read? name read = others.read? name read := by
  refine agrees.readD known (fun json other related => ?_) none
  have same := respects json other related
  rcases barred json other related with rfl | ⟨opened, otherOpened⟩
  · rfl
  · cases json with
    | scalar value => exact nomatch opened
    | array | object =>
      cases other with
      | scalar value => exact nomatch otherOpened
      | array | object => simp only [same]

end Agreement

/-! ### Members taken out -/

theorem filter_of_forall₂ {β : Type} {related : β → β → Prop} {test : β → Bool}
    {values others : List β} (same : ∀ value other, related value other → test value = test other)
    (each : List.Forall₂ related values others) :
    List.Forall₂ (fun value other => related value other ∧ test value = true)
      (values.filter test) (others.filter test) := by
  induction each with
  | nil => exact .nil
  | @cons value other values others here _ ih =>
    cases met : test value with
    | true =>
      rw [List.filter_cons_of_pos met, List.filter_cons_of_pos (same value other here ▸ met)]
      exact .cons ⟨here, met⟩ ih
    | false =>
      rw [List.filter_cons_of_neg (by simp [met]),
        List.filter_cons_of_neg (by simp [← same value other here, met])]
      exact ih

theorem Table.at_cons_self (key : String) (alike : Json → Json → Prop) (table : Table) :
    Table.at ((key, alike) :: table) (some key) = alike := by
  rw [Table.at, Option.bind_some, OrderedMap.lookup_entry_cons, if_pos rfl, Option.getD_some]

theorem Table.at_cons_of_ne {key : String} {asked : Text} (other : asked ≠ some key)
    (alike : Json → Json → Prop) (table : Table) :
    Table.at ((key, alike) :: table) asked = table.at asked := by
  cases asked with
  | none => rfl
  | some name =>
    rw [Table.at, Table.at, Option.bind_some, Option.bind_some, OrderedMap.lookup_entry_cons,
      if_neg (mt (congrArg some) other)]

/-- Where the values under a key are the same, the members under it are the same too, and without
them the records are still alike. -/
theorem RecordAlike.without {accepts : Json → Prop} {key : String} {table : Table}
    {members others : List (Text × Json)}
    (alike : RecordAlike accepts ((key, Eq) :: table) (.object members) (.object others)) :
    (members.filter (·.1 == some key)).Perm (others.filter (·.1 == some key)) ∧
      RecordAlike accepts table (.object (members.filter (!·.1 == some key)))
        (.object (others.filter (!·.1 == some key))) := by
  cases alike with
  | same => exact ⟨.refl _, .same⟩
  | @members _ _ kept keptOthers keeps keepsOthers each =>
    have under : kept.filter (·.1 == some key) = keptOthers.filter (·.1 == some key) := by
      rw [← List.forall₂_eq_eq_eq]
      refine (filter_of_forall₂ (fun _ _ both => by rw [both.1]) each).imp ?_
      rintro ⟨_, value⟩ ⟨_, other⟩ ⟨⟨rfl, related⟩, named⟩
      obtain rfl := beq_iff_eq.mp named
      rw [Table.at_cons_self] at related
      exact congrArg (some key, ·) related
    constructor
    · exact (keeps.filter_perm (by simp)).trans (under ▸ (keepsOthers.filter_perm (by simp)).symm)
    · refine .members keeps.without keepsOthers.without ?_
      refine (filter_of_forall₂ (fun _ _ both => by rw [both.1]) each).imp ?_
      rintro ⟨name, value⟩ ⟨_, other⟩ ⟨⟨rfl, related⟩, unnamed⟩
      rw [Table.at_cons_of_ne (by simpa using unnamed)] at related
      exact ⟨rfl, related⟩

end NativeViews.Json
