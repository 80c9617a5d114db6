import Mathlib.Data.List.Forall2
import NativeViews.Json.Record
import NativeViews.Proofs.Json.RoundTrip

/-!
Records, lists and maps that have been written, and what the readers of documents make of them.
-/

namespace NativeViews.Json

variable {α : Type}

/-! ## Spelling -/

theorem spelled_text (value : String) : (text value).Spelled :=
  .scalar (.text value)

theorem spelled_record {members : List (String × Json)}
    (spelled : ∀ member ∈ members, member.2.Spelled) : (record members).Spelled := by
  refine .object ?_ ?_
  · intro member present
    obtain ⟨entry, _, rfl⟩ := List.mem_map.mp present
    rfl
  · intro member present
    obtain ⟨entry, inside, rfl⟩ := List.mem_map.mp present
    exact spelled entry inside

theorem spelled_list {write : α → Json} {values : List α}
    (spelled : ∀ value ∈ values, (write value).Spelled) :
    (array (values.map write)).Spelled := by
  refine .array ?_
  intro item present
  obtain ⟨value, inside, rfl⟩ := List.mem_map.mp present
  exact spelled value inside

/-! ## Soundness -/

@[simp] theorem isSound_text (levels : Nat) (value : String) : isSound levels (text value) = true := by
  simp [isSound, Scalar.isSound]

theorem areSound_eq_all (levels : Nat) (items : List Json) :
    areSound levels items = items.all (isSound levels) := by
  induction items with
  | nil => rfl
  | cons item items ih => rw [areSound, ih, List.all_cons]

theorem isSound_array (levels : Nat) (items : List Json) :
    isSound (levels + 1) (array items) = items.all (isSound levels) := by
  rw [isSound, areSound_eq_all]

theorem isSound_record (levels : Nat) (members : List (String × Json)) :
    isSound (levels + 1) (record members) = members.all fun member => isSound levels member.2 := by
  rw [record, isSound]
  induction members with
  | nil => rfl
  | cons member members ih =>
    rw [List.map_cons, areMembersSound, ih, isMemberSound, List.all_cons, Option.isSome_some,
      Bool.true_and]

/-! ## Reading -/

/-- The fields of a written record are its members. -/
theorem fields?_record {names : List String} {members : List (String × Json)}
    (known : ∀ member ∈ members, member.1 ∈ names) (distinct : (members.map Prod.fst).Nodup) :
    (record members).fields? names = some members := by
  rw [record, fields?]
  induction members with
  | nil => rfl
  | cons member members ih =>
    obtain ⟨key, value⟩ := member
    obtain ⟨present, others⟩ := List.forall_mem_cons.mp known
    obtain ⟨fresh, rest⟩ := List.nodup_cons.mp distinct
    have absent : members.lookup key = none := by
      rw [List.lookup_eq_none_iff]
      intro entry inside
      have other : key ≠ entry.1 := by
        rintro rfl
        exact fresh (List.mem_map.mpr ⟨entry, inside, rfl⟩)
      simpa using other
    simp only [List.map_cons, Fields.ofMembers, ih others rest, Option.bind_eq_bind,
      Option.bind_some, if_pos present, absent, Option.isSome_none, Bool.false_eq_true, ↓reduceIte]

@[simp] theorem text?_text (value : String) : (text value).text? = some value := rfl

theorem Fields.require_of_lookup {fields : Fields} {name : String} {value : Json}
    (found : fields.lookup name = some value) (read : Json → Option α) :
    fields.require name read = read value := by
  rw [require, found, Option.bind_some]

theorem Fields.readD_of_lookup {fields : Fields} {name : String} {value : Json}
    (found : fields.lookup name = some value) (read : Json → Option α) (absent : α) :
    fields.readD name read absent = read value := by
  rw [readD, found]

/-- A field that is present and not null is read as it would be elsewhere. -/
theorem Fields.read?_of_lookup {fields : Fields} {name : String} {value : Json}
    (found : fields.lookup name = some value) (present : value ≠ null) (read : Json → Option α) :
    fields.read? name read = (read value).map some := by
  simp only [Fields.read?, Fields.readD, found]

theorem Fields.read?_of_absent {fields : Fields} {name : String}
    (absent : fields.lookup name = none) (read : Json → Option α) :
    fields.read? name read = some none := by
  rw [Fields.read?, Fields.readD, absent]

/-- A text that is left out where it is absent is read back. -/
theorem Fields.read?_optional {fields : Fields} {name : String} (value : Option String)
    (found : fields.lookup name = value.map text) : fields.read? name text? = some value := by
  cases value with
  | none => exact read?_of_absent found text?
  | some value => exact read?_of_lookup found (by simp) text?

theorem mapM_eq_some {β : Type} {read : α → Option β} {image : α → β} {values : List α}
    (reads : ∀ value ∈ values, read value = some (image value)) :
    values.mapM read = some (values.map image) := by
  induction values with
  | nil => rfl
  | cons value values ih =>
    obtain ⟨first, others⟩ := List.forall_mem_cons.mp reads
    simp [List.mapM_cons, first, ih others]

theorem mapM_eq_none {β : Type} {read : α → Option β} {values : List α} {value : α}
    (member : value ∈ values) (failed : read value = none) : values.mapM read = none := by
  induction values with
  | nil => simp at member
  | cons first values ih =>
    rcases List.mem_cons.mp member with same | later
    · subst same
      simp [List.mapM_cons, failed]
    · cases found : read first <;> simp [List.mapM_cons, found, ih later]

theorem mapM_eq_some_iff {β : Type} {read : α → Option β} {values : List α} {images : List β} :
    values.mapM read = some images ↔
      List.Forall₂ (fun value image => read value = some image) values images := by
  induction values generalizing images with
  | nil =>
    rw [List.mapM_nil, List.forall₂_nil_left_iff]
    exact Option.some_inj.trans eq_comm
  | cons value values ih =>
    rw [List.forall₂_cons_left_iff]
    simp only [List.mapM_cons, Option.bind_eq_bind, Option.bind_eq_some_iff, Option.pure_def,
      Option.some.injEq, ih, eq_comm (b := images)]
    constructor
    · rintro ⟨first, here, others, later, same⟩
      exact ⟨first, others, here, later, same⟩
    · rintro ⟨first, others, here, later, same⟩
      exact ⟨first, here, others, later, same⟩

/-- A written list is read item by item. -/
theorem list?_array {β : Type} {read : Nat → Json → Option β} {write : α → Json} {image : α → β}
    {values : List α} {levels : Nat}
    (reads : ∀ value ∈ values, read levels (write value) = some (image value)) :
    list? read (levels + 1) (array (values.map write)) = some (values.map image) := by
  rw [list?, List.mapM_map]
  exact mapM_eq_some reads

/-- The members of an object are read one by one, in their order. -/
theorem entries?_eq_some_iff {read : Nat → Json → Option α} {levels : Nat} {json : Json}
    {pairs : List (String × α)} :
    entries? read (levels + 1) json = some pairs ↔ ∃ members, json = .object members ∧
      List.Forall₂ (fun member pair => member.1 = some pair.1 ∧ read levels member.2 = some pair.2)
        members pairs := by
  cases json with
  | scalar value => simp [entries?]
  | array items => simp [entries?]
  | object members =>
    rw [entries?, mapM_eq_some_iff]
    simp only [Option.bind_eq_bind, Option.bind_eq_some_iff, Option.pure_def, Option.some.injEq,
      object.injEq, exists_eq_left']
    refine iff_of_eq (congrArg (List.Forall₂ · members pairs) ?_)
    funext member pair
    obtain ⟨key, value⟩ := pair
    simp [Prod.ext_iff]

theorem entries?_record {β : Type} {read : Nat → Json → Option β} {write : α → Json}
    {image : α → β} {entries : List (String × α)} {levels : Nat}
    (reads : ∀ entry ∈ entries, read levels (write entry.2) = some (image entry.2)) :
    entries? read (levels + 1) (record (entries.map fun entry => (entry.1, write entry.2)))
      = some (entries.map fun entry => (entry.1, image entry.2)) := by
  rw [record, entries?, List.mapM_map, List.mapM_map]
  apply mapM_eq_some
  intro entry member
  simp [reads entry member]

theorem entries?_record_eq_none {β : Type} {read : Nat → Json → Option β} {write : α → Json}
    {entries : List (String × α)} {levels : Nat} {entry : String × α} (member : entry ∈ entries)
    (failed : read levels (write entry.2) = none) :
    entries? read (levels + 1) (record (entries.map fun entry => (entry.1, write entry.2)))
      = none := by
  rw [record, entries?, List.mapM_map, List.mapM_map]
  apply mapM_eq_none member
  simp [failed]

end NativeViews.Json
