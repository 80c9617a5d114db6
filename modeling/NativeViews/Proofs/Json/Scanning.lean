import NativeViews.Json.Printer
import NativeViews.Json.Token

/-!
Scanning what has been written: a written string or numeral is one token, and the token holds
the value that was written.
-/

namespace NativeViews.Json

/-! ## Strings -/

theorem hexDigit?_digitChar : ∀ digit < 16, hexDigit? (Nat.digitChar digit) = some digit := by
  decide

theorem control_toNat_lt {c : Char} (control : c < ' ') : c.toNat < 32 := control

/-- The escape of a control character is read as that character. -/
theorem scanString_control (before : List StringPart) {c : Char} (control : c < ' ')
    (rest : List Char) :
    scanString before
        (['\\', 'u', '0', '0', Nat.digitChar (c.toNat / 16), Nat.digitChar (c.toNat % 16)] ++ rest)
      = scanString (.char c :: before) rest := by
  have bound := control_toNat_lt control
  have high := hexDigit?_digitChar (c.toNat / 16) (by omega)
  have low := hexDigit?_digitChar (c.toNat % 16) (by omega)
  have zero : hexDigit? '0' = some 0 := by decide
  have unit : hexUnit? '0' '0' (Nat.digitChar (c.toNat / 16)) (Nat.digitChar (c.toNat % 16))
      = some c.toNat := by
    simp only [hexUnit?, zero, high, low, Option.bind_eq_bind, Option.bind_some, Option.pure_def,
      Option.some.injEq]
    omega
  have part : StringPart.ofUnit c.toNat = .char c := by
    have plain : ¬ (0xD800 ≤ c.toNat ∧ c.toNat ≤ 0xDFFF) := by omega
    simp [StringPart.ofUnit, plain]
  simp only [List.cons_append, List.nil_append, scanString, unit, part]

/-- What stands for a character inside a string is read as that character. -/
theorem scanString_encodeChar (before : List StringPart) (c : Char) (rest : List Char) :
    scanString before (encodeChar c ++ rest) = scanString (.char c :: before) rest := by
  unfold encodeChar
  split
  · next same => subst same; simp [scanString, escapedChar?]
  split
  · next same => subst same; simp [scanString, escapedChar?]
  split
  · next same => subst same; simp [scanString, escapedChar?]
  split
  · next same => subst same; simp [scanString, escapedChar?]
  split
  · next same => subst same; simp [scanString, escapedChar?]
  split
  · next same => subst same; simp [scanString, escapedChar?]
  split
  · next same => subst same; simp [scanString, escapedChar?]
  split
  · next control => exact scanString_control before control rest
  · next notQuote notBackslash _ _ _ _ _ notControl =>
    have plain : ¬ (c < ' ' ∨ c = '\\') := not_or.mpr ⟨notControl, notBackslash⟩
    rw [List.cons_append, List.nil_append, scanString, if_neg plain]
    · exact notQuote
    · intro _ _ _ _ _ same _
      exact notBackslash same
    · intro _ _ same _
      exact notBackslash same

theorem scanString_encoded (before : List StringPart) (chars rest : List Char) :
    scanString before (chars.flatMap encodeChar ++ '"' :: rest)
      = some (before.reverse ++ chars.map .char, rest) := by
  induction chars generalizing before with
  | nil => simp [scanString]
  | cons c chars ih =>
    rw [List.flatMap_cons, List.append_assoc, scanString_encodeChar, ih]
    simp

theorem joinParts_chars (before chars : List Char) :
    joinParts before (chars.map .char) = some (before.reverse ++ chars) := by
  induction chars generalizing before with
  | nil => simp [joinParts]
  | cons c chars ih => simp [joinParts, ih]

theorem Text.ofParts_chars (value : String) :
    Text.ofParts (value.toList.map .char) = some value := by
  simp [Text.ofParts, joinParts_chars]

/-- A written string is one token. -/
theorem scanToken_renderString (value : String) (rest : List Char) :
    scanToken ((renderString value).toList ++ rest) = some (.scalar (.text (some value)), rest) := by
  have scanned := scanString_encoded [] value.toList rest
  simp only [List.reverse_nil, List.nil_append] at scanned
  simp [renderString, scanToken, scanned, Text.ofParts_chars]

/-! ## Numerals -/

/-- Whether a text begins with a character that could belong to a numeral before it. -/
def continuesNumeral : List Char → Bool
  | [] => false
  | c :: _ => c.isDigit || c = '.' || c = 'e' || c = 'E'

/-- A numeral that is written as it would be read: digits in every part that is present, and no
zero before other digits of the whole part. -/
structure Numeral.WellFormed (numeral : Numeral) : Prop where
  whole : numeral.whole ≠ [] ∧ numeral.whole.all Char.isDigit
  leading : numeral.whole.head? = some '0' → numeral.whole.length = 1
  fraction : ∀ digits ∈ numeral.fraction, digits ≠ [] ∧ digits.all Char.isDigit
  exponent : ∀ signed ∈ numeral.exponent, signed.2 ≠ [] ∧ signed.2.all Char.isDigit

theorem takeWhile_digits {digits rest : List Char} (all : digits.all Char.isDigit)
    (ends : ∀ c ∈ rest.head?, c.isDigit = false) :
    (digits ++ rest).takeWhile Char.isDigit = digits := by
  rw [List.takeWhile_append_of_pos (by simpa using all)]
  cases rest with
  | nil => simp
  | cons c rest => simp [ends c (by simp)]

theorem dropWhile_digits {digits rest : List Char} (all : digits.all Char.isDigit)
    (ends : ∀ c ∈ rest.head?, c.isDigit = false) :
    (digits ++ rest).dropWhile Char.isDigit = rest := by
  rw [List.dropWhile_append_of_pos (by simpa using all)]
  cases rest with
  | nil => simp
  | cons c rest => simp [ends c (by simp)]

/-- How a fraction is written. -/
def writtenFraction (fraction : Option (List Char)) : List Char :=
  fraction.elim [] ('.' :: ·)

/-- How an exponent is written. -/
def writtenExponent (exponent : Option (Bool × List Char)) : List Char :=
  exponent.elim [] fun (negative, digits) =>
    'e' :: (if negative then '-' :: digits else digits)

theorem Numeral.toList_render (numeral : Numeral) :
    numeral.render.toList =
      (if numeral.negative then ['-'] else []) ++ (numeral.whole
        ++ (writtenFraction numeral.fraction ++ writtenExponent numeral.exponent)) := by
  simp [Numeral.render, writtenFraction, writtenExponent]

theorem scanSign_digits (negative : Bool) {digits : List Char} (nonempty : digits ≠ [])
    (all : digits.all Char.isDigit) (rest : List Char) :
    scanSign ((if negative then '-' :: digits else digits) ++ rest) = (negative, digits ++ rest) := by
  cases negative with
  | true => simp [scanSign]
  | false =>
    cases digits with
    | nil => exact absurd rfl nonempty
    | cons digit digits =>
      have first : digit.isDigit = true := (List.all_eq_true.mp all) digit (by simp)
      simp only [Bool.false_eq_true, ↓reduceIte, List.cons_append]
      unfold scanSign
      split <;> simp_all [show ¬ ('-').isDigit = true by decide,
        show ¬ ('+').isDigit = true by decide]

theorem scanExponent_written (exponent : Option (Bool × List Char)) {rest : List Char}
    (formed : ∀ signed ∈ exponent, signed.2 ≠ [] ∧ signed.2.all Char.isDigit)
    (ends : continuesNumeral rest = false) :
    scanExponent (writtenExponent exponent ++ rest) = some (exponent, rest) := by
  cases exponent with
  | none =>
    cases rest with
    | nil => rfl
    | cons c rest =>
      simp only [continuesNumeral, Bool.or_eq_false_iff, decide_eq_false_iff_not] at ends
      simp [writtenExponent, scanExponent, ends]
  | some signed =>
    obtain ⟨negative, digits⟩ := signed
    obtain ⟨nonempty, all⟩ := formed (negative, digits) rfl
    have noDigit : ∀ c ∈ rest.head?, c.isDigit = false := by
      intro c head
      cases rest with
      | nil => simp at head
      | cons first rest => simp_all [continuesNumeral]
    have sign := scanSign_digits negative nonempty all rest
    have digitsFirst := takeWhile_digits all noDigit
    have restLast := dropWhile_digits all noDigit
    simp only [writtenExponent, Option.elim_some, List.cons_append, scanExponent, sign, digitsFirst,
      restLast, true_or, ↓reduceIte, List.isEmpty_iff, nonempty]

theorem scanFraction_written (fraction : Option (List Char)) {rest : List Char}
    (formed : ∀ digits ∈ fraction, digits ≠ [] ∧ digits.all Char.isDigit)
    (noDigit : ∀ c ∈ rest.head?, c.isDigit = false) (noDot : ∀ c ∈ rest.head?, c ≠ '.') :
    scanFraction (writtenFraction fraction ++ rest) = some (fraction, rest) := by
  cases fraction with
  | none =>
    simp only [writtenFraction, Option.elim_none, List.nil_append]
    unfold scanFraction
    split
    · next tail => exact absurd rfl (noDot '.' (by simp))
    · rfl
  | some digits =>
    obtain ⟨nonempty, all⟩ := formed digits rfl
    simp only [writtenFraction, Option.elim_some, List.cons_append, scanFraction,
      takeWhile_digits all noDigit, dropWhile_digits all noDigit]
    simp [nonempty]

/-- What follows the digits of a whole part: no digit, and no dot unless a fraction follows. -/
theorem writtenExponent_head (exponent : Option (Bool × List Char)) {rest : List Char}
    (ends : continuesNumeral rest = false) :
    ∀ c ∈ (writtenExponent exponent ++ rest).head?, c.isDigit = false ∧ c ≠ '.' := by
  intro c head
  cases exponent with
  | none =>
    cases rest with
    | nil => simp [writtenExponent] at head
    | cons first rest =>
      simp only [writtenExponent, Option.elim_none, List.nil_append, List.head?_cons,
        Option.mem_def, Option.some.injEq] at head
      subst head
      simp only [continuesNumeral, Bool.or_eq_false_iff, decide_eq_false_iff_not] at ends
      exact ⟨ends.1.1.1, ends.1.1.2⟩
  | some signed =>
    simp only [writtenExponent, Option.elim_some, List.cons_append, List.head?_cons,
      Option.mem_def, Option.some.injEq] at head
    subst head
    decide

theorem scanMagnitude_written {numeral : Numeral} (formed : numeral.WellFormed) {rest : List Char}
    (ends : continuesNumeral rest = false) :
    scanMagnitude numeral.negative (numeral.whole
        ++ (writtenFraction numeral.fraction ++ writtenExponent numeral.exponent) ++ rest)
      = some (numeral, rest) := by
  have afterFraction := writtenExponent_head numeral.exponent ends
  have afterWhole : ∀ c ∈ (writtenFraction numeral.fraction
      ++ (writtenExponent numeral.exponent ++ rest)).head?, c.isDigit = false := by
    intro c head
    cases found : numeral.fraction with
    | none => exact (afterFraction c (by simpa [found, writtenFraction] using head)).1
    | some digits =>
      have dot : '.' = c := by simpa [found, writtenFraction] using head
      subst dot
      decide
  have short : ¬ (numeral.whole.head? = some '0' ∧ numeral.whole.length > 1) := by
    rintro ⟨zero, long⟩
    have single := formed.leading zero
    omega
  have fraction := scanFraction_written numeral.fraction formed.fraction
    (fun c head => (afterFraction c head).1) (fun c head => (afterFraction c head).2)
  have exponent := scanExponent_written numeral.exponent formed.exponent ends
  simp only [scanMagnitude, List.append_assoc, takeWhile_digits formed.whole.2 afterWhole,
    dropWhile_digits formed.whole.2 afterWhole, fraction, exponent, List.isEmpty_iff,
    formed.whole.1, short, false_or, ↓reduceIte, Option.bind_eq_bind, Option.bind_some]

theorem scanNumeral_render {numeral : Numeral} (formed : numeral.WellFormed) {rest : List Char}
    (ends : continuesNumeral rest = false) :
    scanNumeral (numeral.render.toList ++ rest) = some (numeral, rest) := by
  have scanned := scanMagnitude_written formed ends
  rw [Numeral.toList_render]
  cases sign : numeral.negative with
  | true =>
    rw [sign] at scanned
    simpa [scanNumeral] using scanned
  | false =>
    obtain ⟨digit, digits, whole⟩ := List.exists_cons_of_ne_nil formed.whole.1
    have first : digit.isDigit = true :=
      List.all_eq_true.mp formed.whole.2 digit (by simp [whole])
    rw [sign, whole] at scanned
    simp only [Bool.false_eq_true, ↓reduceIte, List.nil_append, whole, List.cons_append]
      at scanned ⊢
    unfold scanNumeral
    split
    · next tail same =>
      simp only [List.cons.injEq] at same
      rw [same.1] at first
      exact absurd first (by decide)
    · exact scanned

end NativeViews.Json
