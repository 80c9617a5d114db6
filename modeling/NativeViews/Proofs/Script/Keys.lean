import NativeViews.Proofs.Script.Letters
import NativeViews.Proofs.Script.Literal
import NativeViews.Proofs.Text.IdentifierClasses
import NativeViews.Script.Printer

/-!
The keys of members as scripts are read. A reader takes a key bare if it is an identifier name, by
classes of characters that are not quite those by which keys are written bare: a name may begin with a
mark that spells a vowel, or hold one of a few signs, and is then no identifier name. All other keys
are read as they were given.
-/

namespace NativeViews.Script

/-! ## Identifier names -/

/-- Whether an identifier name may begin with `c`. -/
def startsName (c : Char) : Bool :=
  c = '$' || c = '_' || Text.idStartRanges.holds c

/-- Whether an identifier name may go on with `c`: with a character of the property ID_Continue, a
dollar sign, or one of the two signs that join and part letters. -/
def continuesName (c : Char) : Bool :=
  c = '$' || c = '\u200C' || c = '\u200D'
    || Text.idStartRanges.holds c || Text.idExtendRanges.holds c

/-- Whether a name is an identifier name, which a reader takes bare. -/
def isIdentifierName (name : String) : Bool :=
  match name.toList with
  | [] => false
  | first :: rest => startsName first && rest.all continuesName

/-- Whether a text is read as a key: it is a literal of the key, or the key itself where that is an
identifier name. -/
def ReadsAsKey (text key : String) : Prop :=
  Quoted.read text.toList = some (key, []) ∨ text = key ∧ isIdentifierName key

/-- Whether a name neither begins with a character that only goes on with names, but for the
underscore, nor holds a stray one. -/
def IsPlain (name : String) : Prop :=
  (∀ first ∈ name.toList.head?, first = '_' ∨ Text.idExtendRanges.holds first = false) ∧
    ∀ c ∈ name.toList, Text.strayRanges.holds c = false

/-! ## Identifiers and identifier names -/

/-- The signs that are no letters or numerals and yet may stand in names. -/
theorem signs_in_names :
    (Text.strayRanges.holds '$' = false ∧ Text.strayRanges.holds '_' = false ∧
      Text.strayRanges.holds '\u200C' = false ∧ Text.strayRanges.holds '\u200D' = false) ∧
      Text.idExtendRanges.holds '$' = false ∧ Text.idExtendRanges.holds '_' := by
  decide +kernel

/-- Of the characters that identifiers begin with, identifier names begin with those that are no
marks and not stray. -/
theorem startsName_iff {c : Char} (starts : startsIdentifier c) :
    startsName c ↔ (c = '_' ∨ Text.idExtendRanges.holds c = false) ∧
      Text.strayRanges.holds c = false := by
  obtain ⟨clear, dollar, _⟩ := signs_in_names
  by_cases underscore : c = '_'
  · simp [startsName, underscore, clear]
  by_cases sign : c = '$'
  · simp [startsName, sign, clear, dollar]
  have alphanumeric : Text.isAlphanumeric c := by
    simp only [startsIdentifier, underscore, sign, decide_false, Bool.false_or] at starts
    rw [Text.isAlphanumeric, starts, Bool.true_or]
  rcases Text.classes_of_isAlphanumeric alphanumeric with start | mark | stray
  · obtain ⟨noMark, notStray⟩ := Text.not_holds_of_idStart start
    simp [startsName, start, noMark, notStray]
  · have noStart : ¬ Text.idStartRanges.holds c := fun start =>
      absurd (mark.symm.trans (Text.not_holds_of_idStart start).1) (by decide)
    simp [startsName, underscore, sign, noStart, mark]
  · have noStart : ¬ Text.idStartRanges.holds c := fun start =>
      absurd (stray.symm.trans (Text.not_holds_of_idStart start).2) (by decide)
    simp [startsName, underscore, sign, noStart, stray]

/-- Of the characters that identifiers go on with, identifier names go on with those that are not
stray. -/
theorem continuesName_iff {c : Char} (goesOn : continuesIdentifier c) :
    continuesName c ↔ Text.strayRanges.holds c = false := by
  obtain ⟨clear, _, low⟩ := signs_in_names
  constructor
  · intro continues
    simp only [continuesName, Bool.or_eq_true, decide_eq_true_eq] at continues
    rcases continues with (((rfl | rfl) | rfl) | start) | mark
    · exact clear.1
    · exact clear.2.2.1
    · exact clear.2.2.2
    · exact (Text.not_holds_of_idStart start).2
    · exact Text.not_stray_of_idExtend mark
  · intro notStray
    simp only [continuesIdentifier, Bool.or_eq_true, decide_eq_true_eq] at goesOn
    rcases goesOn with (rfl | rfl) | alphanumeric
    · simp [continuesName, low]
    · simp [continuesName]
    rcases Text.classes_of_isAlphanumeric alphanumeric with start | mark | stray
    · simp [continuesName, start]
    · simp [continuesName, mark]
    · exact absurd (stray.symm.trans notStray) (by decide)

/-- An identifier is an identifier name exactly if it is plain. -/
theorem isIdentifierName_iff {key : String} (identifier : isIdentifier key) :
    isIdentifierName key ↔ IsPlain key := by
  unfold isIdentifier at identifier
  unfold isIdentifierName IsPlain
  split at identifier
  · exact absurd identifier (by decide)
  · next first rest chars =>
    rw [Bool.and_eq_true, List.all_eq_true] at identifier
    obtain ⟨starts, goesOn⟩ := identifier
    rw [chars, List.head?_cons, List.forall_mem_cons]
    simp only [Bool.and_eq_true, List.all_eq_true, Option.mem_some_iff, forall_eq',
      startsName_iff starts, and_assoc]
    refine and_congr_right fun _ => and_congr_right fun _ => forall₂_congr fun c member => ?_
    exact continuesName_iff (goesOn c member)

/-! ## Keys -/

/-- An identifier is no literal. -/
theorem read_of_isIdentifier {key : String} (identifier : isIdentifier key) :
    Quoted.read key.toList = none := by
  unfold isIdentifier at identifier
  split at identifier
  · exact absurd identifier (by decide)
  · next first rest chars =>
    have starts := (Bool.and_eq_true_iff.mp identifier).1
    have noQuote : first ≠ '\'' := by
      rintro rfl
      simp at starts
    rw [chars]
    unfold Quoted.read
    split
    · next same => exact absurd (List.cons.inj same).1 noQuote
    · rfl

/-- The key of a member, whether of a property or of a method, is written as a literal that is read as
the key, or else bare. A reader takes it as the key exactly if it was not written bare or is plain. -/
theorem writtenKey_readsAsKey_iff (key : String) :
    (∀ level value, (Member.property key value).render level
      = writtenKey key ++ ": " ++ value.render level) ∧
    (∀ level params body, (Member.method key params body).render level
      = writtenKey key ++ writtenParams params ++ " "
        ++ braced level (Stmt.renderLines (level + 1) body)) ∧
    (writtenKey key = quote key ∧ Quoted.read (writtenKey key).toList = some (key, []) ∨
      writtenKey key = key ∧ isIdentifier key) ∧
    (ReadsAsKey (writtenKey key) key ↔ isIdentifier key = false ∨ IsPlain key) := by
  refine ⟨fun _ _ => rfl, fun _ _ _ => rfl, ?_⟩
  unfold writtenKey
  cases identifier : isIdentifier key with
  | false =>
    have read : Quoted.read (quote key).toList = some (key, []) := by
      simpa using Quoted.read_quote key []
    simp [ReadsAsKey, read]
  | true =>
    have bare := read_of_isIdentifier identifier
    simp [ReadsAsKey, bare, isIdentifierName_iff identifier]

/-- A key with a raised figure is written bare and is no identifier name. -/
theorem not_readsAsKey_square :
    (Member.property "m²" (.bool true)).render 0 = "m²: true" ∧
      ¬ ReadsAsKey (writtenKey "m²") "m²" := by
  have bare : writtenKey "m²" = "m²" := by decide +kernel
  refine ⟨by decide +kernel, ?_⟩
  rw [bare]
  rintro (literal | ⟨_, name⟩)
  · exact absurd literal (by decide +kernel)
  · exact absurd name (by decide +kernel)

end NativeViews.Script
