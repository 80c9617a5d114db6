import Mathlib.Data.List.TakeWhile
import NativeViews.Proofs.OrderedMap
import NativeViews.Proofs.Outcome
import NativeViews.Settings.Reference

/-!
What a text with references stands for. The references of a text are told by how they are written
and where they stand, and each of them by what the environment gives to its name.
-/

namespace NativeViews

/-! ## Values of names -/

/-- Two texts with a sign between them are told apart at the first such sign. -/
theorem eq_of_append_sign {sign : Char} {first second rest other : List Char}
    (clear : sign ∉ first) (clearOther : sign ∉ second)
    (same : first ++ sign :: rest = second ++ sign :: other) : first = second ∧ rest = other := by
  induction first generalizing second with
  | nil =>
    cases second with
    | nil => exact ⟨rfl, (List.cons.inj same).2⟩
    | cons c second =>
      have here : sign = c := (List.cons.inj same).1
      exact absurd (here ▸ List.mem_cons_self) clearOther
  | cons c first ih =>
    cases second with
    | nil =>
      have here : c = sign := (List.cons.inj same).1
      exact absurd (here ▸ List.mem_cons_self) clear
    | cons d second =>
      obtain ⟨here, later⟩ := List.cons.inj same
      obtain ⟨firsts, rests⟩ := ih (mt (List.mem_cons_of_mem c) clear)
        (mt (List.mem_cons_of_mem d) clearOther) later
      exact ⟨by rw [here, firsts], rests⟩

namespace Environment

variable {environment : Environment} {name value : String}

/-- Whether an environment gives a value to a name. A variable stands in an environment as its
name, an equals sign and its value; the value of a name is what stands behind the name and an
equals sign. -/
def Gives (environment : Environment) (name value : String) : Prop :=
  ∃ entry ∈ environment.entries, '=' ∉ entry.1.toList ∧
    entry.1.toList ++ '=' :: entry.2.toList = name.toList ++ '=' :: value.toList

/-- The value of a name without an equals sign is that of the variable of this name. -/
theorem gives_iff_of_plain (plain : '=' ∉ name.toList) :
    environment.Gives name value ↔ environment.get? name = some value := by
  rw [OrderedMap.get?_eq_some_iff]
  constructor
  · rintro ⟨entry, member, clear, same⟩
    obtain ⟨names, values⟩ := eq_of_append_sign clear plain same
    rwa [← String.toList_injective names, ← String.toList_injective values]
  · intro member
    exact ⟨(name, value), member, plain, rfl⟩

/-- The value of a name that holds an equals sign stands in the value of a shorter name. -/
theorem gives_iff_of_sign {rest : List Char}
    (split : name.toList = (variableOf name).toList ++ '=' :: rest) :
    environment.Gives name value ↔
      ∃ held, environment.get? (variableOf name) = some held ∧
        held.toList = rest ++ '=' :: value.toList := by
  have clear : '=' ∉ (variableOf name).toList := by
    intro member
    rw [variableOf, String.toList_ofList] at member
    simpa using List.mem_takeWhile_imp member
  simp only [OrderedMap.get?_eq_some_iff]
  constructor
  · rintro ⟨entry, member, entryClear, same⟩
    rw [split, List.append_assoc, List.cons_append] at same
    obtain ⟨names, values⟩ := eq_of_append_sign entryClear clear same
    exact ⟨entry.2, String.toList_injective names ▸ member, values⟩
  · rintro ⟨held, member, spelled⟩
    refine ⟨(variableOf name, held), member, clear, ?_⟩
    rw [split, spelled, List.append_assoc, List.cons_append]

theorem find?_eq_some_iff : environment.find? name = some value ↔ environment.Gives name value := by
  have whole := List.takeWhile_append_dropWhile (p := (· != '=')) (l := name.toList)
  rw [find?]
  split
  · next none =>
    have plain : '=' ∉ name.toList := by
      intro member
      simpa using List.dropWhile_eq_nil_iff.mp none '=' member
    exact (gives_iff_of_plain plain).symm
  · next sign rest found =>
    have stop : sign = '=' := by
      have rejected := List.head?_dropWhile_not (· != '=') name.toList
      rw [found] at rejected
      simpa using rejected
    rw [stop] at found
    have split : name.toList = (variableOf name).toList ++ '=' :: rest := by
      rw [variableOf, String.toList_ofList, ← found, whole]
    rw [gives_iff_of_sign split, Option.bind_eq_bind, Option.bind_eq_some_iff]
    refine exists_congr fun held => and_congr_right fun _ => ?_
    simp only []
    rw [Option.ite_none_right_eq_some, Option.some.injEq, List.isPrefixOf_iff_prefix]
    constructor
    · rintro ⟨⟨tail, spelled⟩, same⟩
      rw [← spelled, List.drop_left] at same
      rw [← spelled, ← same, String.toList_ofList, List.append_assoc, List.singleton_append]
    · intro spelled
      have split : held.toList = rest ++ ['='] ++ value.toList := by
        rw [spelled, List.append_assoc, List.singleton_append]
      refine ⟨⟨value.toList, split.symm⟩, ?_⟩
      rw [split, List.drop_left, String.ofList_toList]

end Environment

/-! ## References as they are written -/

namespace Reference

variable {reference : Reference} {chars rest : List Char}

/-- Whether a reference has a name, and its name and its default hold only what they may. -/
structure WellFormed (reference : Reference) : Prop where
  named : reference.name.toList ≠ []
  name : ∀ c ∈ reference.name.toList, c ≠ '\x7d' ∧ c ≠ ':'
  default : ∀ text ∈ reference.default, '\x7d' ∉ text.toList

/-- A default as it is written. -/
def writtenDefault (default : Option String) : List Char :=
  default.elim [] fun text => ':' :: '-' :: text.toList

/-- A reference as it is written. -/
def written (reference : Reference) : List Char :=
  '$' :: '\x7b' :: (reference.name.toList ++ writtenDefault reference.default ++ ['\x7d'])

/-- Whether a text begins with a reference. -/
def Begins (reference : Reference) (chars : List Char) : Prop :=
  reference.WellFormed ∧ reference.written <+: chars

theorem all_isNameChar {name : List Char} (allowed : ∀ c ∈ name, c ≠ '\x7d' ∧ c ≠ ':') :
    ∀ c ∈ name, isNameChar c = true := by
  intro c member
  obtain ⟨notBrace, notColon⟩ := allowed c member
  simp [isNameChar, notBrace, notColon]

theorem isNameChar_takeWhile : ∀ c ∈ chars.takeWhile isNameChar, c ≠ '\x7d' ∧ c ≠ ':' := by
  intro c member
  simpa [isNameChar] using List.mem_takeWhile_imp member

/-- Behind its opening brace a written reference is read as what it says. -/
theorem scan_written (formed : reference.WellFormed) (rest : List Char) :
    scan (reference.name.toList ++ writtenDefault reference.default ++ '\x7d' :: rest)
      = some (reference, rest) := by
  obtain ⟨name, default⟩ := reference
  obtain ⟨named, allowed, closed⟩ := formed
  have all := all_isNameChar allowed
  cases default with
  | none =>
    have before : (name.toList ++ '\x7d' :: rest).takeWhile isNameChar = name.toList := by
      simp [List.takeWhile_append_of_pos all, isNameChar]
    have after : (name.toList ++ '\x7d' :: rest).dropWhile isNameChar = '\x7d' :: rest := by
      simp [List.dropWhile_append_of_pos all, isNameChar]
    simp only [writtenDefault, Option.elim_none, List.append_nil, scan, before, after]
    rw [if_neg (by simpa using named), String.ofList_toList]
  | some text =>
    have clear : ∀ c ∈ text.toList, (c != '\x7d') = true := by
      intro c member
      rw [bne_iff_ne]
      rintro rfl
      exact closed text rfl member
    have before : (name.toList ++ ':' :: '-' :: (text.toList ++ '\x7d' :: rest)).takeWhile isNameChar
        = name.toList := by
      simp [List.takeWhile_append_of_pos all, isNameChar]
    have after : (name.toList ++ ':' :: '-' :: (text.toList ++ '\x7d' :: rest)).dropWhile isNameChar
        = ':' :: '-' :: (text.toList ++ '\x7d' :: rest) := by
      simp [List.dropWhile_append_of_pos all, isNameChar]
    have given : (text.toList ++ '\x7d' :: rest).takeWhile (· != '\x7d') = text.toList := by
      simp [List.takeWhile_append_of_pos clear]
    have left : (text.toList ++ '\x7d' :: rest).dropWhile (· != '\x7d') = '\x7d' :: rest := by
      simp [List.dropWhile_append_of_pos clear]
    simp only [writtenDefault, Option.elim_some, List.append_assoc, List.cons_append, scan, before,
      after, given, left]
    rw [if_neg (by simpa using named), String.ofList_toList, String.ofList_toList]

/-- What is read as a reference is one that is written there. -/
theorem written_of_scan (scanned : scan chars = some (reference, rest)) :
    reference.WellFormed ∧
      chars = reference.name.toList ++ writtenDefault reference.default ++ '\x7d' :: rest := by
  have whole := List.takeWhile_append_dropWhile (p := isNameChar) (l := chars)
  simp only [scan] at scanned
  split at scanned
  · exact nomatch scanned
  next named =>
  split at scanned
  · next tail closed =>
    simp only [Option.some.injEq, Prod.mk.injEq] at scanned
    obtain ⟨rfl, rfl⟩ := scanned
    refine ⟨⟨by simpa using named, by simpa using isNameChar_takeWhile, by simp⟩, ?_⟩
    rw [← closed, writtenDefault, Option.elim_none, List.append_nil, String.toList_ofList, whole]
  · next tail opened =>
    have behind := List.takeWhile_append_dropWhile (p := (· != '\x7d')) (l := tail)
    split at scanned
    · next after closed =>
      simp only [Option.some.injEq, Prod.mk.injEq] at scanned
      obtain ⟨rfl, rfl⟩ := scanned
      refine ⟨⟨by simpa using named, by simpa using isNameChar_takeWhile, ?_⟩, ?_⟩
      · intro text same
        obtain rfl := Option.some.inj same
        rw [String.toList_ofList]
        intro member
        simpa using List.mem_takeWhile_imp member
      · rw [writtenDefault, Option.elim_some, String.toList_ofList, String.toList_ofList,
          List.append_assoc, List.cons_append, List.cons_append, ← closed, behind, ← opened, whole]
    · exact nomatch scanned
  · exact nomatch scanned

theorem written_append (reference : Reference) (rest : List Char) :
    reference.written ++ rest = '$' :: '\x7b' ::
      (reference.name.toList ++ writtenDefault reference.default ++ '\x7d' :: rest) := by
  simp [written]

theorem scan_eq_some_iff :
    scan chars = some (reference, rest) ↔
      reference.WellFormed ∧ '$' :: '\x7b' :: chars = reference.written ++ rest := by
  constructor
  · intro scanned
    obtain ⟨formed, same⟩ := written_of_scan scanned
    exact ⟨formed, by rw [written_append, same]⟩
  · rintro ⟨formed, same⟩
    rw [written_append] at same
    obtain rfl := (List.cons.inj (List.cons.inj same).2).2
    exact scan_written formed rest

/-- A text that begins with a reference begins with no other. -/
theorem unique_of_written {other : Reference} {after : List Char} (formed : reference.WellFormed)
    (formedOther : other.WellFormed) (same : reference.written ++ rest = other.written ++ after) :
    reference = other ∧ rest = after := by
  have first := scan_written formed rest
  rw [written_append, written_append] at same
  rw [(List.cons.inj (List.cons.inj same).2).2, scan_written formedOther after] at first
  exact Prod.mk.inj (Option.some.inj first.symm)

theorem not_begins_nil (reference : Reference) : ¬ reference.Begins [] := by
  rintro ⟨_, start⟩
  simp [written] at start

end Reference

/-! ## The references of a text -/

/-- The references of a text from left to right, each with what stands before it and behind the one
before it, and what stands behind the last of them. Each of them stands where the first reference in
what is left of the text begins. -/
inductive References : List Char → List (List Char × Reference) → List Char → Prop where
  | plain {chars : List Char}
      (absent : ∀ position reference, ¬ Reference.Begins reference (chars.drop position)) :
      References chars [] chars
  | next {chars gap rest tail : List Char} {reference : Reference}
      {found : List (List Char × Reference)} (formed : reference.WellFormed)
      (split : chars = gap ++ reference.written ++ rest)
      (first : ∀ position < gap.length, ∀ other, ¬ Reference.Begins other (chars.drop position))
      (later : References rest found tail) :
      References chars ((gap, reference) :: found) tail

namespace References

variable {chars tail last : List Char} {found others : List (List Char × Reference)}

/-- What begins no reference comes before the first one. -/
theorem cons {c : Char} (clear : ∀ reference, ¬ Reference.Begins reference (c :: chars))
    (references : References chars found tail) :
    ∃ found tail, References (c :: chars) found tail := by
  cases references with
  | plain absent =>
    refine ⟨[], c :: chars, .plain ?_⟩
    intro position
    cases position with
    | zero => exact clear
    | succ position => exact absent position
  | @next _ gap rest _ reference found formed split first later =>
    refine ⟨(c :: gap, reference) :: found, tail, .next formed (by rw [split]; rfl) ?_ later⟩
    intro position before
    cases position with
    | zero => exact clear
    | succ position => exact first position (Nat.lt_of_succ_lt_succ before)

/-- Where no reference is read, none begins. -/
theorem not_begins_of_scan (chars : List Char) (unread : Reference.scan chars = none)
    (reference : Reference) : ¬ reference.Begins ('$' :: '\x7b' :: chars) := by
  rintro ⟨formed, rest, same⟩
  have read := Reference.scan_eq_some_iff.mpr ⟨formed, same.symm⟩
  rw [unread] at read
  exact nomatch read

theorem not_begins_of_ne {c : Char} (other : ∀ rest, c :: chars ≠ '$' :: '\x7b' :: rest)
    (reference : Reference) : ¬ reference.Begins (c :: chars) := by
  rintro ⟨_, rest, same⟩
  rw [Reference.written_append] at same
  exact other _ same.symm

/-- Every text has its references. -/
theorem exists_of_text (chars : List Char) : ∃ found tail, References chars found tail := by
  fun_induction pieces chars with
  | case1 =>
    refine ⟨[], [], .plain ?_⟩
    intro position reference
    rw [List.drop_nil]
    exact reference.not_begins_nil
  | case2 rest reference after scanned ih =>
    obtain ⟨found, tail, later⟩ := ih
    obtain ⟨formed, split⟩ := Reference.scan_eq_some_iff.mp scanned
    exact ⟨([], reference) :: found, tail, .next formed split (by simp) later⟩
  | case3 rest scanned ih =>
    obtain ⟨found, tail, later⟩ := ih
    exact later.cons (not_begins_of_scan rest scanned)
  | case4 c rest other ih =>
    obtain ⟨found, tail, later⟩ := ih
    exact later.cons (not_begins_of_ne fun _ same => other _ (List.cons.inj same).1
      (List.cons.inj same).2)

theorem begins_at_gap {gap rest : List Char} {reference : Reference}
    (formed : reference.WellFormed) (split : chars = gap ++ reference.written ++ rest) :
    reference.Begins (chars.drop gap.length) := by
  rw [split, List.append_assoc, List.drop_left]
  exact ⟨formed, rest, rfl⟩

/-- A text has no other references. -/
theorem unique (references : References chars found tail) (again : References chars others last) :
    others = found ∧ last = tail := by
  induction references generalizing others last with
  | plain absent =>
    cases again with
    | plain _ => exact ⟨rfl, rfl⟩
    | next formed split _ _ => exact absurd (begins_at_gap formed split) (absent _ _)
  | @next chars gap rest tail reference found formed split first later ih =>
    cases again with
    | plain absent => exact absurd (begins_at_gap formed split) (absent _ _)
    | @next _ otherGap otherRest _ other others otherFormed otherSplit otherFirst otherLater =>
      have length : gap.length = otherGap.length := by
        apply Nat.le_antisymm
        · exact Nat.le_of_not_lt fun before =>
            first _ before other (begins_at_gap otherFormed otherSplit)
        · exact Nat.le_of_not_lt fun before =>
            otherFirst _ before reference (begins_at_gap formed split)
      have same := split.symm.trans otherSplit
      rw [List.append_assoc, List.append_assoc] at same
      obtain ⟨gaps, rests⟩ := List.append_inj same length
      obtain ⟨written, after⟩ := Reference.unique_of_written formed otherFormed rests
      subst after
      obtain ⟨founds, tails⟩ := ih otherLater
      exact ⟨by rw [gaps, written, founds], tails⟩

end References

/-! ## What references stand for -/

/-- Whether a value stands for a reference: what the environment gives to its name, or its default
where the environment gives nothing. -/
def Reference.StandsFor (environment : Environment) (reference : Reference) (value : String) : Prop :=
  environment.Gives reference.name value ∨
    (¬ ∃ given, environment.Gives reference.name given) ∧ reference.default = some value

/-- Whether nothing stands for a reference. -/
def Reference.Unset (environment : Environment) (reference : Reference) : Prop :=
  (¬ ∃ given, environment.Gives reference.name given) ∧ reference.default = none

/-- What a reference is replaced by, with what stands before it. -/
def References.replaced (environment : Environment) (part : List Char × Reference) :
    Except Failure (List Char) :=
  (Piece.resolve environment (.reference part.2)).map (part.1 ++ ·)

theorem Environment.find?_eq_none_iff {environment : Environment} {name : String} :
    environment.find? name = none ↔ ¬ ∃ given, environment.Gives name given := by
  simp [Option.eq_none_iff_forall_ne_some, Environment.find?_eq_some_iff]

section Standing

variable {environment : Environment} {reference : Reference} {value : String}

theorem Reference.value?_eq_some_iff :
    reference.value? environment = some value ↔ reference.StandsFor environment value := by
  rw [value?, StandsFor, ← Environment.find?_eq_none_iff, ← Environment.find?_eq_some_iff]
  cases environment.find? reference.name <;> simp

theorem Reference.value?_eq_none_iff :
    reference.value? environment = none ↔ reference.Unset environment := by
  rw [value?, Unset, ← Environment.find?_eq_none_iff]
  cases environment.find? reference.name <;> simp

end Standing

namespace References

variable {environment : Environment} {part : List Char × Reference}

theorem replaced_ok_iff {result : List Char} :
    replaced environment part = .ok result ↔
      ∃ value, part.2.StandsFor environment value ∧ result = part.1 ++ value.toList := by
  simp only [← Reference.value?_eq_some_iff, replaced, Piece.resolve]
  cases part.2.value? environment <;> simp [Except.map, eq_comm]

theorem failureOf?_replaced {failure : Failure} :
    failureOf? (replaced environment part) = some failure ↔
      part.2.Unset environment ∧ failure = .variableNotSet part.2.name := by
  rw [← Reference.value?_eq_none_iff, replaced, failureOf?_map, Piece.resolve]
  cases part.2.value? environment <;> simp [failureOf?, eq_comm]

theorem failureOf?_replaced_eq_none :
    failureOf? (replaced environment part) = none ↔ ¬ part.2.Unset environment := by
  rw [← Reference.value?_eq_none_iff, replaced, failureOf?_map, Piece.resolve]
  cases part.2.value? environment <;> simp [failureOf?]

end References

/-! ## Replacing references -/

section Pieces

variable {chars tail : List Char} {found : List (List Char × Reference)}

theorem pieces_cons {c : Char} (clear : ∀ reference, ¬ Reference.Begins reference (c :: chars)) :
    pieces (c :: chars) = .char c :: pieces chars := by
  rw [pieces.eq_def]
  split
  · next same => cases same
  · next rest same =>
    obtain ⟨rfl, rfl⟩ := List.cons.inj same
    split
    · next reference after scanned =>
      obtain ⟨formed, split⟩ := Reference.scan_eq_some_iff.mp scanned
      exact absurd ⟨formed, after, split.symm⟩ (clear reference)
    · rfl
  · next same =>
    obtain ⟨rfl, rfl⟩ := List.cons.inj same
    rfl

/-- Before the first reference a text is taken as it is. -/
theorem pieces_append (gap rest : List Char)
    (clear : ∀ position < gap.length, ∀ reference,
      ¬ Reference.Begins reference ((gap ++ rest).drop position)) :
    pieces (gap ++ rest) = gap.map .char ++ pieces rest := by
  induction gap with
  | nil => rfl
  | cons c gap ih =>
    have here : pieces (c :: (gap ++ rest)) = .char c :: pieces (gap ++ rest) :=
      pieces_cons (clear 0 (Nat.succ_pos _))
    have later := ih fun position before => clear (position + 1) (Nat.succ_lt_succ before)
    rw [List.cons_append, here, later, List.map_cons, List.cons_append]

theorem pieces_of_absent
    (absent : ∀ position reference, ¬ Reference.Begins reference (chars.drop position)) :
    pieces chars = chars.map .char := by
  have all := pieces_append chars [] fun position _ reference => by
    rw [List.append_nil]
    exact absent position reference
  rwa [List.append_nil, pieces, List.append_nil] at all

theorem pieces_written {reference : Reference} (formed : reference.WellFormed) (rest : List Char) :
    pieces (reference.written ++ rest) = .reference reference :: pieces rest := by
  rw [Reference.written_append, pieces.eq_def]
  simp only
  split
  · next read after scanned =>
    rw [Reference.scan_written formed, Option.some.injEq, Prod.mk.injEq] at scanned
    rw [scanned.1, scanned.2]
  · next unread =>
    rw [Reference.scan_written formed] at unread
    cases unread

theorem mapM_resolve_char (environment : Environment) (chars : List Char) :
    (chars.map Piece.char).mapM (Piece.resolve environment) = .ok (chars.map fun c => [c]) := by
  rw [mapM_ok_iff]
  induction chars with
  | nil => exact .nil
  | cons c chars ih => exact .cons rfl ih

theorem flatten_singletons (chars : List Char) : (chars.map fun c => [c]).flatten = chars := by
  rw [← List.flatMap_def, List.flatMap_singleton']

/-- What stands between references stays, and each reference is replaced by itself. -/
theorem References.mapM_pieces (references : References chars found tail)
    (environment : Environment) :
    ((pieces chars).mapM (Piece.resolve environment)).map List.flatten
      = (found.mapM (replaced environment)).map fun parts => parts.flatten ++ tail := by
  induction references with
  | plain absent =>
    rw [pieces_of_absent absent, mapM_resolve_char, Except.map, flatten_singletons]
    rfl
  | @next chars gap rest tail reference found formed split first later ih =>
    have before : pieces chars = gap.map .char ++ .reference reference :: pieces rest := by
      rw [split, List.append_assoc] at first ⊢
      rw [pieces_append _ _ first, pieces_written formed]
    rw [before, List.mapM_append, mapM_resolve_char, ok_bind, List.mapM_cons, List.mapM_cons,
      replaced]
    cases Piece.resolve environment (.reference reference) with
    | error failure => rfl
    | ok value =>
      generalize (pieces rest).mapM (Piece.resolve environment) = texts at ih ⊢
      generalize found.mapM (replaced environment) = parts at ih ⊢
      cases texts with
      | error failure =>
        cases parts with
        | error other => exact ih
        | ok parts => exact nomatch ih
      | ok texts =>
        cases parts with
        | error other => exact nomatch ih
        | ok parts =>
          have same : texts.flatten = parts.flatten ++ tail := Except.ok.inj ih
          refine congrArg Except.ok ?_
          change _ = ((gap ++ value) :: parts).flatten ++ tail
          rw [List.flatten_append, flatten_singletons, List.flatten_cons, List.flatten_cons, same,
            List.append_assoc, List.append_assoc]

/-- A text is replaced reference by reference. -/
theorem References.substitute_eq {text : String} (references : References text.toList found tail)
    (environment : Environment) :
    substitute environment text
      = (found.mapM (replaced environment)).map fun parts =>
          String.ofList (parts.flatten ++ tail) := by
  calc substitute environment text
      = (((pieces text.toList).mapM (Piece.resolve environment)).map List.flatten).map
          String.ofList := by
        rw [substitute]
        cases (pieces text.toList).mapM (Piece.resolve environment) <;> rfl
    _ = _ := by
        rw [references.mapM_pieces]
        cases found.mapM (replaced environment) <;> rfl

end Pieces

/-- The references of a text are told by how they are written: a dollar sign with a brace, a name
without closing braces and colons, perhaps a colon with a dash and a default without closing
braces, and a closing brace. What stands for a text is the text with each of its references, taken
from left to right, replaced by what stands for it: what the environment gives to its name, or else
its default. It is not looked at again, and what stands between references is kept. If nothing
stands for a reference, the first such reference is the failure. -/
theorem substitute_references (environment : Environment) (text : String) :
    ∃ found tail, References text.toList found tail ∧
      (∀ others last, References text.toList others last → others = found ∧ last = tail) ∧
      (∀ result, substitute environment text = .ok result ↔
        ∃ parts : List (List Char),
          List.Forall₂ (fun part replaced => ∃ value, part.2.StandsFor environment value ∧
            replaced = part.1 ++ value.toList) found parts ∧
          result = String.ofList (parts.flatten ++ tail)) ∧
      (∀ failure, substitute environment text = .error failure ↔
        ∃ before part after, found = before ++ part :: after ∧
          (part.2.Unset environment ∧ failure = .variableNotSet part.2.name) ∧
          ∀ earlier ∈ before, ¬ earlier.2.Unset environment) := by
  obtain ⟨found, tail, references⟩ := References.exists_of_text text.toList
  refine ⟨found, tail, references, fun _ _ => references.unique, fun result => ?_,
    fun failure => ?_⟩
  · rw [references.substitute_eq]
    simp only [← References.replaced_ok_iff, ← mapM_ok_iff]
    constructor
    · intro done
      obtain ⟨parts, replaced, same⟩ := exists_of_map_ok done
      exact ⟨parts, replaced, same.symm⟩
    · rintro ⟨parts, replaced, rfl⟩
      rw [replaced]
      rfl
  · rw [references.substitute_eq, ← failureOf?_eq_some_iff, failureOf?_map, failureOf?_mapM,
      List.findSome?_eq_some_iff]
    simp only [References.failureOf?_replaced, References.failureOf?_replaced_eq_none]

/-- A default ends at the first closing brace, so that no reference stands inside another. -/
example : substitute (.ofList [("A", "x")]) "$\x7bB:-$\x7bA\x7d/y\x7d" = .ok "$\x7bA/y\x7d" := by
  decide +kernel

end NativeViews
