import NativeViews.Json.Basic

/-!
The tokens of a document. Blanks are spaces, tabs, line feeds and carriage returns; a string may
hold any character from the space on, and the usual escapes.
-/

namespace NativeViews.Json

/-- A token: a bracket, a separator, or a value without parts. -/
inductive Token where
  | openArray
  | closeArray
  | openObject
  | closeObject
  | comma
  | colon
  | scalar (value : Scalar)
  deriving DecidableEq, Repr

/-- A character of a string, or a surrogate that an escape names. -/
inductive StringPart where
  | char (c : Char)
  | surrogate (unit : Nat)
  deriving DecidableEq, Repr

def hexDigit? (c : Char) : Option Nat :=
  if '0' ≤ c ∧ c ≤ '9' then some (c.toNat - '0'.toNat)
  else if 'a' ≤ c ∧ c ≤ 'f' then some (c.toNat - 'a'.toNat + 10)
  else if 'A' ≤ c ∧ c ≤ 'F' then some (c.toNat - 'A'.toNat + 10)
  else none

/-- The number that four hexadecimal digits spell. -/
def hexUnit? (a b c d : Char) : Option Nat := do
  let a ← hexDigit? a
  let b ← hexDigit? b
  let c ← hexDigit? c
  let d ← hexDigit? d
  pure (((a * 16 + b) * 16 + c) * 16 + d)

/-- The character of an escape that is a single letter or sign. -/
def escapedChar? (c : Char) : Option Char :=
  if c = '"' ∨ c = '\\' ∨ c = '/' then some c
  else if c = 'b' then some '\x08'
  else if c = 'f' then some '\x0c'
  else if c = 'n' then some '\n'
  else if c = 'r' then some '\r'
  else if c = 't' then some '\t'
  else none

/-- The part of a string that a four-digit escape stands for. -/
def StringPart.ofUnit (unit : Nat) : StringPart :=
  if 0xD800 ≤ unit ∧ unit ≤ 0xDFFF then .surrogate unit else .char (Char.ofNat unit)

/-- The parts of a string up to its closing quote, with what follows the quote. -/
def scanString (before : List StringPart) : List Char → Option (List StringPart × List Char)
  | [] => none
  | '"' :: rest => some (before.reverse, rest)
  | '\\' :: 'u' :: a :: b :: c :: d :: rest =>
    match hexUnit? a b c d with
    | none => none
    | some unit => scanString (.ofUnit unit :: before) rest
  | '\\' :: c :: rest =>
    match escapedChar? c with
    | none => none
    | some escaped => scanString (.char escaped :: before) rest
  | c :: rest => if c < ' ' ∨ c = '\\' then none else scanString (.char c :: before) rest

/-- The characters that the parts of a string spell, if every surrogate has its other half. -/
def joinParts (before : List Char) : List StringPart → Option (List Char)
  | [] => some before.reverse
  | .char c :: rest => joinParts (c :: before) rest
  | .surrogate high :: .surrogate low :: rest =>
    if high < 0xDC00 ∧ 0xDC00 ≤ low then
      joinParts (Char.ofNat (0x10000 + (high - 0xD800) * 0x400 + (low - 0xDC00)) :: before) rest
    else
      none
  | .surrogate _ :: _ => none

/-- The text that the parts of a string spell. -/
def Text.ofParts (parts : List StringPart) : Text :=
  (joinParts [] parts).map String.ofList

def scanFraction (chars : List Char) : Option (Option (List Char) × List Char) :=
  match chars with
  | '.' :: rest =>
    let digits := rest.takeWhile Char.isDigit
    if digits.isEmpty then none else some (some digits, rest.dropWhile Char.isDigit)
  | _ => some (none, chars)

/-- Whether a minus sign comes first, with what follows a sign of either kind. -/
def scanSign : List Char → Bool × List Char
  | '-' :: rest => (true, rest)
  | '+' :: rest => (false, rest)
  | chars => (false, chars)

def scanExponent : List Char → Option (Option (Bool × List Char) × List Char)
  | [] => some (none, [])
  | c :: rest =>
    if c = 'e' ∨ c = 'E' then
      let signed := scanSign rest
      let digits := signed.2.takeWhile Char.isDigit
      if digits.isEmpty then none
      else some (some (signed.1, digits), signed.2.dropWhile Char.isDigit)
    else
      some (none, c :: rest)

/-- A numeral without its sign, with what follows it. A whole part of several digits does not
begin with zero. -/
def scanMagnitude (negative : Bool) (chars : List Char) : Option (Numeral × List Char) :=
  let whole := chars.takeWhile Char.isDigit
  if whole.isEmpty ∨ (whole.head? = some '0' ∧ whole.length > 1) then none
  else do
    let (fraction, rest) ← scanFraction (chars.dropWhile Char.isDigit)
    let (exponent, rest) ← scanExponent rest
    some (⟨negative, whole, fraction, exponent⟩, rest)

def scanNumeral : List Char → Option (Numeral × List Char)
  | '-' :: rest => scanMagnitude true rest
  | chars => scanMagnitude false chars

/-- One token, not a blank, with what follows it. -/
def scanToken : List Char → Option (Token × List Char)
  | '[' :: rest => some (.openArray, rest)
  | ']' :: rest => some (.closeArray, rest)
  | '\x7b' :: rest => some (.openObject, rest)
  | '\x7d' :: rest => some (.closeObject, rest)
  | ',' :: rest => some (.comma, rest)
  | ':' :: rest => some (.colon, rest)
  | 'n' :: 'u' :: 'l' :: 'l' :: rest => some (.scalar .null, rest)
  | 't' :: 'r' :: 'u' :: 'e' :: rest => some (.scalar (.bool true), rest)
  | 'f' :: 'a' :: 'l' :: 's' :: 'e' :: rest => some (.scalar (.bool false), rest)
  | '"' :: rest => (scanString [] rest).map fun (parts, rest) =>
    (.scalar (.text (Text.ofParts parts)), rest)
  | chars => (scanNumeral chars).map fun (numeral, rest) => (.scalar (.number numeral), rest)

/-- Whether a character may stand between tokens. -/
def isBlank (c : Char) : Bool :=
  c = ' ' || c = '\t' || c = '\n' || c = '\r'

theorem length_scanString {before parts : List StringPart} {chars rest : List Char}
    (scanned : scanString before chars = some (parts, rest)) : rest.length < chars.length := by
  fun_induction scanString before chars with
  | case1 => simp at scanned
  | case2 before tail => simp_all
  | case3 => simp at scanned
  | case4 before a b c d tail unit found ih => have := ih scanned; simp; omega
  | case5 => simp at scanned
  | case6 before c tail notUnit escaped found ih => have := ih scanned; simp; omega
  | case7 => simp at scanned
  | case8 before c tail notQuote notUnit notEscape plain ih => have := ih scanned; simp; omega

private theorem length_dropWhile_le (p : Char → Bool) (chars : List Char) :
    (chars.dropWhile p).length ≤ chars.length :=
  (List.dropWhile_sublist p).length_le

private theorem length_dropWhile_lt (p : Char → Bool) {chars : List Char}
    (some : (chars.takeWhile p).isEmpty = false) : (chars.dropWhile p).length < chars.length := by
  have whole := congrArg List.length (List.takeWhile_append_dropWhile (p := p) (l := chars))
  rw [List.length_append] at whole
  have : 0 < (chars.takeWhile p).length := List.length_pos_iff.mpr (by simpa using some)
  omega

theorem length_scanSign (chars : List Char) : (scanSign chars).2.length ≤ chars.length := by
  unfold scanSign
  split <;> simp

theorem length_scanFraction {chars rest : List Char} {fraction : Option (List Char)}
    (scanned : scanFraction chars = some (fraction, rest)) : rest.length ≤ chars.length := by
  unfold scanFraction at scanned
  split at scanned
  · next tail =>
    have shorter := length_dropWhile_le Char.isDigit tail
    simp only at scanned
    split at scanned
    · simp at scanned
    · simp only [Option.some.injEq, Prod.mk.injEq] at scanned
      simp [← scanned.2]; omega
  · simp at scanned; simp [← scanned.2]

theorem length_scanExponent {chars rest : List Char} {exponent : Option (Bool × List Char)}
    (scanned : scanExponent chars = some (exponent, rest)) : rest.length ≤ chars.length := by
  cases chars with
  | nil => simp only [scanExponent, Option.some.injEq, Prod.mk.injEq] at scanned; simp [← scanned.2]
  | cons c tail =>
    simp only [scanExponent] at scanned
    split at scanned
    · split at scanned
      · simp at scanned
      · simp only [Option.some.injEq, Prod.mk.injEq] at scanned
        have signed := length_scanSign tail
        have shorter := length_dropWhile_le Char.isDigit (scanSign tail).2
        simp only [← scanned.2, List.length_cons]
        omega
    · simp only [Option.some.injEq, Prod.mk.injEq] at scanned
      simp [← scanned.2]

theorem length_scanMagnitude {negative : Bool} {chars rest : List Char} {numeral : Numeral}
    (scanned : scanMagnitude negative chars = some (numeral, rest)) :
    rest.length < chars.length := by
  simp only [scanMagnitude] at scanned
  split at scanned
  · simp at scanned
  · next nonempty =>
    simp only [not_or, Bool.not_eq_true] at nonempty
    have shorter := length_dropWhile_lt Char.isDigit nonempty.1
    simp only [Option.bind_eq_bind, Option.bind_eq_some_iff] at scanned
    obtain ⟨⟨fraction, afterFraction⟩, fractionScanned, ⟨exponent, afterExponent⟩,
      exponentScanned, last⟩ := scanned
    have : afterFraction.length ≤ (chars.dropWhile Char.isDigit).length :=
      length_scanFraction fractionScanned
    have : afterExponent.length ≤ afterFraction.length := length_scanExponent exponentScanned
    simp only [Option.some.injEq, Prod.mk.injEq] at last
    rw [← last.2]
    omega

theorem length_scanNumeral {chars rest : List Char} {numeral : Numeral}
    (scanned : scanNumeral chars = some (numeral, rest)) : rest.length < chars.length := by
  unfold scanNumeral at scanned
  split at scanned
  · have := length_scanMagnitude scanned; simp; omega
  · exact length_scanMagnitude scanned

theorem length_scanToken {chars rest : List Char} {token : Token}
    (scanned : scanToken chars = some (token, rest)) : rest.length < chars.length := by
  unfold scanToken at scanned
  split at scanned
  case h_10 tail =>
    simp only [Option.map_eq_some_iff, Prod.mk.injEq] at scanned
    obtain ⟨⟨parts, after⟩, string, _, rfl⟩ := scanned
    have := length_scanString string
    simp only [List.length_cons]
    omega
  case h_11 =>
    simp only [Option.map_eq_some_iff, Prod.mk.injEq] at scanned
    obtain ⟨⟨numeral, after⟩, number, _, rfl⟩ := scanned
    exact length_scanNumeral number
  all_goals
    simp only [Option.some.injEq, Prod.mk.injEq] at scanned
    simp only [← scanned.2, List.length_cons]
    omega

/-- The tokens of a document after those of `before`, the last of which comes first. -/
def scanAfter (before : List Token) : List Char → Option (List Token)
  | [] => some before.reverse
  | c :: rest =>
    if isBlank c then scanAfter before rest
    else
      match _found : scanToken (c :: rest) with
      | none => none
      | some (token, rest) => scanAfter (token :: before) rest
termination_by chars => chars.length
decreasing_by
  · simp
  · simpa using length_scanToken _found

def scan (document : List Char) : Option (List Token) :=
  scanAfter [] document

end NativeViews.Json
