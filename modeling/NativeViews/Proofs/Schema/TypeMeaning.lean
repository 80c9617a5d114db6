import NativeViews.Proofs.Outcome
import NativeViews.Proofs.Schema.RoundTrip

/-!
What the type of a prop means, as a document spells it. Only arrays look inside, so that the end of
the path through their element types decides whether a type has a meaning, and how it fails.
-/

namespace NativeViews

/-! ## Tags -/

theorem ScalarKind.ofTag?_eq_some_iff {tag : String} {kind : ScalarKind} :
    ofTag? tag = some kind ↔ tag = kind.tag := by
  constructor
  · intro found
    have same := List.find?_some (p := fun kind : ScalarKind => kind.tag == tag) found
    exact (eq_of_beq same).symm
  · rintro rfl
    cases kind <;> rfl

theorem ScalarKind.ofTag?_eq_none_iff {tag : String} :
    ofTag? tag = none ↔ ∀ kind : ScalarKind, tag ≠ kind.tag := by
  rw [Option.eq_none_iff_forall_ne_some]
  exact forall_congr' fun _ => not_congr ofTag?_eq_some_iff

theorem Primitive.ofName?_eq_some_iff {name : String} {primitive : Primitive} :
    ofName? name = some primitive ↔ name = primitive.name := by
  constructor
  · intro found
    have same := List.find?_some (p := fun primitive : Primitive => primitive.name == name) found
    exact (eq_of_beq same).symm
  · rintro rfl
    cases primitive <;> rfl

theorem Primitive.ofName?_eq_none_iff {name : String} :
    ofName? name = none ↔ ∀ primitive : Primitive, name ≠ primitive.name := by
  rw [Option.eq_none_iff_forall_ne_some]
  exact forall_congr' fun _ => not_congr ofName?_eq_some_iff

theorem ScalarKind.tag_ne_reservedTag (kind : ScalarKind) : kind.tag ≠ PropType.reservedTag := by
  cases kind <;> decide

theorem ScalarKind.tag_ne_arrayTag (kind : ScalarKind) : kind.tag ≠ PropType.arrayTag := by
  cases kind <;> decide

theorem PropType.reservedTag_ne_arrayTag : reservedTag ≠ arrayTag := by
  decide

namespace Wire.PropType

open NativeViews.PropType (reservedTag arrayTag)

/-! ## The end of a path -/

/-- The type at the end of the path through element types, which goes on as long as there are
arrays that have one. -/
def innermost : PropType → PropType
  | leaf kind name => leaf kind name
  | node kind name element =>
    if kind = arrayTag then element.innermost else node kind name element

/-- A name where the kind of a type uses it. -/
def usedName (kind : String) (name : Option String) : Option String :=
  if kind = reservedTag then name else none

/-- The type without what its kind does not use, at every level. -/
def pruned : PropType → PropType
  | leaf kind name => leaf kind (usedName kind name)
  | node kind name element =>
    if kind = arrayTag then node kind none element.pruned else leaf kind (usedName kind name)

/-- Whether a type that is no array has a meaning. -/
inductive Known : String → Option String → Prop where
  | scalar (scalar : ScalarKind) (name : Option String) : Known scalar.tag name
  | reserved (primitive : Primitive) : Known reservedTag (some primitive.name)

/-- How a type at the end of a path fails. -/
inductive Meaningless : String → Option String → Failure → Prop where
  | element (name : Option String) :
      Meaningless arrayTag name (.missingField "ArrayTypeAnnotation.elementType")
  | name : Meaningless reservedTag none (.missingField "ReservedPropTypeAnnotation.name")
  | reserved {name : String} (unknown : ∀ primitive : Primitive, name ≠ primitive.name) :
      Meaningless reservedTag (some name) (.unknownType name)
  | kind {kind : String} (name : Option String) (unknown : ∀ scalar : ScalarKind, kind ≠ scalar.tag)
      (unreserved : kind ≠ reservedTag) (flat : kind ≠ arrayTag) :
      Meaningless kind name (.unknownType kind)

variable {kind : String} {name : Option String} {raw : PropType}
  {type : NativeViews.PropType} {failure : Failure}

/-! ## Types that are no arrays -/

/-- A type that is no array has a meaning, or there is a way in which it fails. -/
theorem known_or_meaningless (kind : String) (name : Option String) :
    Known kind name ∨ ∃ failure, Meaningless kind name failure := by
  by_cases scalar : ∃ scalar : ScalarKind, kind = scalar.tag
  · obtain ⟨scalar, rfl⟩ := scalar
    exact .inl (.scalar scalar name)
  by_cases reserved : kind = reservedTag
  · subst reserved
    cases name with
    | none => exact .inr ⟨_, .name⟩
    | some name =>
      by_cases primitive : ∃ primitive : Primitive, name = primitive.name
      · obtain ⟨primitive, rfl⟩ := primitive
        exact .inl (.reserved primitive)
      · exact .inr ⟨_, .reserved (not_exists.mp primitive)⟩
  · by_cases array : kind = arrayTag
    · subst array
      exact .inr ⟨_, .element name⟩
    · exact .inr ⟨_, .kind name (not_exists.mp scalar) reserved array⟩

theorem convertFlat_of_unknown (unknown : ∀ scalar : ScalarKind, kind ≠ scalar.tag)
    (unreserved : kind ≠ reservedTag) (name : Option String) :
    convertFlat kind name
      = if kind = arrayTag then .error (.missingField "ArrayTypeAnnotation.elementType")
        else .error (.unknownType kind) := by
  rw [convertFlat.eq_def, ScalarKind.ofTag?_eq_none_iff.mpr unknown]
  exact if_neg unreserved

theorem convertFlat_reserved (name : String) :
    convertFlat reservedTag (some name)
      = match Primitive.ofName? name with
        | some primitive => .ok (.reserved primitive)
        | none => .error (.unknownType name) := by
  have unknown := ScalarKind.ofTag?_eq_none_iff.mpr fun scalar => scalar.tag_ne_reservedTag.symm
  rw [convertFlat.eq_def, unknown]
  exact if_pos rfl

/-- What has a meaning is spelled like its meaning, apart from a name that its kind does not use. -/
theorem convertFlat_of_known (known : Known kind name) :
    ∃ type, convertFlat kind name = .ok type ∧ ofTyped type = leaf kind (usedName kind name) := by
  cases known with
  | scalar scalar name =>
    refine ⟨.scalar scalar, ?_, ?_⟩
    · rw [convertFlat.eq_def, ScalarKind.ofTag?_eq_some_iff.mpr rfl]
    · rw [ofTyped, usedName, if_neg scalar.tag_ne_reservedTag]
  | reserved primitive =>
    refine ⟨.reserved primitive, ?_, rfl⟩
    rw [convertFlat_reserved, Primitive.ofName?_eq_some_iff.mpr rfl]

theorem convertFlat_of_meaningless (meaningless : Meaningless kind name failure) :
    convertFlat kind name = .error failure := by
  cases meaningless with
  | element name =>
    rw [convertFlat_of_unknown (fun scalar => scalar.tag_ne_arrayTag.symm)
      NativeViews.PropType.reservedTag_ne_arrayTag.symm]
    exact if_pos rfl
  | name => rfl
  | reserved unknown =>
    rw [convertFlat_reserved, Primitive.ofName?_eq_none_iff.mpr unknown]
  | kind name unknown unreserved flat =>
    rw [convertFlat_of_unknown unknown unreserved]
    exact if_neg flat

theorem failureOf?_convertFlat_eq_none :
    failureOf? (convertFlat kind name) = none ↔ Known kind name := by
  rw [failureOf?_eq_none_iff]
  constructor
  · rintro ⟨type, meant⟩
    rcases known_or_meaningless kind name with known | ⟨failure, meaningless⟩
    · exact known
    · exact nomatch (convertFlat_of_meaningless meaningless).symm.trans meant
  · intro known
    obtain ⟨type, meant, _⟩ := convertFlat_of_known known
    exact ⟨type, meant⟩

theorem failureOf?_convertFlat_eq_some :
    failureOf? (convertFlat kind name) = some failure ↔ Meaningless kind name failure := by
  rw [failureOf?_eq_some_iff]
  constructor
  · intro failed
    rcases known_or_meaningless kind name with known | ⟨other, meaningless⟩
    · obtain ⟨type, meant, _⟩ := convertFlat_of_known known
      exact nomatch failed.symm.trans meant
    · obtain rfl := Except.error.inj ((convertFlat_of_meaningless meaningless).symm.trans failed)
      exact meaningless
  · exact convertFlat_of_meaningless

theorem ofTyped_of_convertFlat (meant : convertFlat kind name = .ok type) :
    ofTyped type = leaf kind (usedName kind name) := by
  obtain ⟨other, again, spelled⟩ :=
    convertFlat_of_known (failureOf?_convertFlat_eq_none.mp (by rw [meant]; rfl))
  obtain rfl := Except.ok.inj (again.symm.trans meant)
  exact spelled

/-! ## All types -/

/-- The end of its path decides how a type fails. -/
theorem failureOf?_convert (raw : PropType) :
    failureOf? raw.convert = failureOf? (convertFlat raw.innermost.kind raw.innermost.name) := by
  induction raw with
  | leaf kind name => rfl
  | node kind name element ih =>
    by_cases array : kind = arrayTag
    · rw [convert, if_pos array, failureOf?_map, ih, innermost, if_pos array]
    · rw [convert, if_neg array, innermost, if_neg array]
      rfl

/-- A type that has a meaning is spelled like it, apart from what its kind does not use. -/
theorem ofTyped_of_convert (meant : raw.convert = .ok type) : ofTyped type = raw.pruned := by
  induction raw generalizing type with
  | leaf kind name => exact ofTyped_of_convertFlat meant
  | node kind name element ih =>
    rw [convert] at meant
    by_cases array : kind = arrayTag
    · rw [if_pos array] at meant
      obtain ⟨inner, read, rfl⟩ := exists_of_map_ok meant
      rw [pruned, if_pos array, ofTyped, ih read, array]
    · rw [if_neg array] at meant
      rw [pruned, if_neg array, ofTyped_of_convertFlat meant]

/-- A type has a meaning exactly if the path through the element types of its arrays ends at a
scalar kind or at a reserved type with the name of a primitive. The meaning is then spelled like the
type itself, apart from what its kinds do not use, and what is so spelled has the same meaning.
Otherwise the end of the path alone decides how the type fails. Every type has the meaning that its
own spelling says. -/
theorem convert_by_innermost (raw : PropType) :
    ((∃ type, raw.convert = .ok type) ↔ Known raw.innermost.kind raw.innermost.name) ∧
      (∀ type, raw.convert = .ok type →
        ofTyped type = raw.pruned ∧ raw.pruned.convert = .ok type) ∧
      (∀ failure, raw.convert = .error failure ↔
        Meaningless raw.innermost.kind raw.innermost.name failure) ∧
      ∀ type, (ofTyped type).convert = .ok type := by
  refine ⟨?_, fun type meant => ?_, fun failure => ?_, convert_ofTyped⟩
  · rw [← failureOf?_eq_none_iff, failureOf?_convert, failureOf?_convertFlat_eq_none]
  · have spelled := ofTyped_of_convert meant
    refine ⟨spelled, ?_⟩
    rw [← spelled, convert_ofTyped]
  · rw [← failureOf?_eq_some_iff, failureOf?_convert, failureOf?_convertFlat_eq_some]

end Wire.PropType

end NativeViews
