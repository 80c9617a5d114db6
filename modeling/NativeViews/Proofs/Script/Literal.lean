import NativeViews.Proofs.Json.Scanning
import NativeViews.Script.Quoted

/-!
Reading string literals: a literal ends at the first quote that is not escaped, so what was
quoted is read back whatever follows it. A literal stays on its line.
-/

namespace NativeViews.Script.Quoted

/-- Whether a character ends a line, and so may not stand bare inside a literal. -/
def isLineEnd (c : Char) : Bool :=
  c = '\n' || c = '\r' || c = '\u2028' || c = '\u2029'

/-- The character of an escape that is one letter or sign. -/
def escaped? (c : Char) : Option Char :=
  if c = '\'' ∨ c = '\\' then some c
  else if c = 'n' then some '\n'
  else if c = 'r' then some '\r'
  else if c = 't' then some '\t'
  else none

/-- The character of a code unit that is one by itself. -/
def ofUnit? (unit : Nat) : Option Char :=
  if unit.isValidChar then some (Char.ofNat unit) else none

/-- What was read, with one character more in front of the text. -/
def prepend (c : Char) : List Char × List Char → List Char × List Char
  | (chars, after) => (c :: chars, after)

/-- The text inside a literal up to the quote that closes it, with what follows the quote. -/
def decode : List Char → Option (List Char × List Char)
  | [] => none
  | '\'' :: rest => some ([], rest)
  | '\\' :: 'u' :: a :: b :: c :: d :: rest =>
    ((Json.hexUnit? a b c d).bind ofUnit?).bind fun first => (decode rest).map (prepend first)
  | '\\' :: c :: rest => (escaped? c).bind fun first => (decode rest).map (prepend first)
  | c :: rest => if c = '\\' || isLineEnd c then none else (decode rest).map (prepend c)

/-- The text of a literal, with what follows the literal. -/
def read : List Char → Option (String × List Char)
  | '\'' :: rest => (decode rest).map fun (chars, after) => (String.ofList chars, after)
  | _ => none

theorem decode_plain {c : Char} (noQuote : c ≠ '\'') (noEscape : c ≠ '\\')
    (inLine : isLineEnd c = false) (rest : List Char) :
    decode (c :: rest) = (decode rest).map (prepend c) := by
  rw [decode.eq_def]
  split
  · next same => simp at same
  · next same => exact absurd (List.cons.inj same).1 noQuote
  · next same => exact absurd (List.cons.inj same).1 noEscape
  · next same => exact absurd (List.cons.inj same).1 noEscape
  · next same =>
    obtain ⟨rfl, rfl⟩ := List.cons.inj same
    simp [noEscape, inLine]

theorem decode_escape {letter c : Char} (notUnit : letter ≠ 'u') (means : escaped? letter = some c)
    (rest : List Char) :
    decode ('\\' :: letter :: rest) = (decode rest).map (prepend c) := by
  rw [decode.eq_def]
  split
  · next same => simp at same
  · next same => exact absurd (List.cons.inj same).1 (by decide)
  · next same =>
    simp only [List.cons.injEq] at same
    exact absurd same.2.1 notUnit
  · next same =>
    simp only [List.cons.injEq, true_and] at same
    obtain ⟨rfl, rfl⟩ := same
    rw [means, Option.bind_some]
  · next pattern same =>
    obtain ⟨rfl, rfl⟩ := List.cons.inj same
    exact absurd rfl (pattern letter rest rfl)

theorem hexUnit?_fourHexDigits {unit : Nat} (bound : unit < 0x10000) :
    ∃ a b c d, fourHexDigits unit = [a, b, c, d] ∧ Json.hexUnit? a b c d = some unit := by
  refine ⟨_, _, _, _, rfl, ?_⟩
  have digit (n : Nat) : Json.hexDigit? (Nat.digitChar (n % 16)) = some (n % 16) :=
    Json.hexDigit?_digitChar _ (Nat.mod_lt n (by decide))
  simp only [Json.hexUnit?, digit, Option.bind_eq_bind, Option.bind_some, Option.pure_def,
    Option.some.injEq]
  omega

/-- The escape by number of a character of the basic plane is read as that character. -/
theorem decode_unit {c : Char} (bound : c.toNat < 0x10000) (rest : List Char) :
    decode (('\\' :: 'u' :: fourHexDigits c.toNat) ++ rest) = (decode rest).map (prepend c) := by
  obtain ⟨first, second, third, fourth, digits, value⟩ := hexUnit?_fourHexDigits bound
  have char : ofUnit? c.toNat = some c := by
    have valid : c.toNat.isValidChar := c.valid
    rw [ofUnit?, if_pos valid, Char.ofNat_toNat]
  rw [digits]
  simp only [List.cons_append, List.nil_append, decode, value, Option.bind_some, char]

/-- What stands for a character inside a literal is read as that character. -/
theorem decode_encodeChar (c : Char) (rest : List Char) :
    decode (encodeChar c ++ rest) = (decode rest).map (prepend c) := by
  unfold encodeChar
  split
  · next same => subst same; exact decode_escape (by decide) rfl rest
  split
  · next same => subst same; exact decode_escape (by decide) rfl rest
  split
  · next same => subst same; exact decode_escape (by decide) rfl rest
  split
  · next same => subst same; exact decode_escape (by decide) rfl rest
  split
  · next same => subst same; exact decode_escape (by decide) rfl rest
  split
  · next special =>
    refine decode_unit ?_ rest
    rcases special with rfl | rfl | control
    · decide
    · decide
    · simp only [Text.isControl, Bool.or_eq_true, Bool.and_eq_true, decide_eq_true_eq] at control
      omega
  · next notQuote notBackslash notLine notReturn _ notSpecial =>
    simp only [not_or] at notSpecial
    have inLine : isLineEnd c = false := by
      simp [isLineEnd, notLine, notReturn, notSpecial]
    exact decode_plain notQuote notBackslash inLine rest

theorem decode_encode (chars rest : List Char) :
    decode (encode chars ++ '\'' :: rest) = some (chars, rest) := by
  induction chars with
  | nil => simp [encode, decode]
  | cons c chars ih =>
    have step := decode_encodeChar c (encode chars ++ '\'' :: rest)
    rw [ih] at step
    simpa [encode, prepend] using step

/-- A quoted text is read back, and nothing of what follows it is taken. -/
theorem read_quote (value : String) (rest : List Char) :
    read ((quote value).toList ++ rest) = some (value, rest) := by
  simp [quote, read, decode_encode]

/-! ## Literals stay on their line -/

/-- Whether a character may stand in a line of text: it is no control character and ends no line. -/
def InLine (c : Char) : Prop :=
  Text.isControl c = false ∧ isLineEnd c = false

instance (c : Char) : Decidable (InLine c) :=
  inferInstanceAs (Decidable (_ ∧ _))

theorem inLine_fourHexDigits (unit : Nat) : ∀ c ∈ fourHexDigits unit, InLine c := by
  have digit : ∀ n < 16, InLine (Nat.digitChar n) := by decide
  have small (n : Nat) : n % 16 < 16 := Nat.mod_lt n (by decide)
  simp only [fourHexDigits, List.forall_mem_map, List.forall_mem_cons, List.not_mem_nil,
    false_implies, implies_true, and_true]
  exact ⟨digit _ (small _), digit _ (small _), digit _ (small _), digit _ (small _)⟩

theorem inLine_escape {letter : Char} (plain : InLine letter) :
    ∀ written ∈ ['\\', letter], InLine written :=
  List.forall_mem_cons.mpr ⟨by decide, List.forall_mem_singleton.mpr plain⟩

/-- Whatever a character is, what stands for it inside a literal stays in the line. -/
theorem inLine_encodeChar (c : Char) : ∀ written ∈ encodeChar c, InLine written := by
  unfold encodeChar
  split
  · exact inLine_escape (by decide)
  split
  · exact inLine_escape (by decide)
  split
  · exact inLine_escape (by decide)
  split
  · exact inLine_escape (by decide)
  split
  · exact inLine_escape (by decide)
  split
  · exact List.forall_mem_cons.mpr ⟨by decide,
      List.forall_mem_cons.mpr ⟨by decide, inLine_fourHexDigits c.toNat⟩⟩
  · next _ _ notLine notReturn _ notSpecial =>
    simp only [not_or, Bool.not_eq_true] at notSpecial
    refine List.forall_mem_singleton.mpr ⟨notSpecial.2.2, ?_⟩
    simp [isLineEnd, notLine, notReturn, notSpecial]

theorem inLine_quote (value : String) : ∀ c ∈ (quote value).toList, InLine c := by
  have inside : ∀ c ∈ encode value.toList, InLine c := by
    intro c member
    obtain ⟨source, _, written⟩ := List.mem_flatMap.mp member
    exact inLine_encodeChar source c written
  have sign : InLine '\'' := by decide
  rw [quote, String.toList_ofList, List.forall_mem_append, List.forall_mem_cons]
  exact ⟨⟨sign, inside⟩, List.forall_mem_singleton.mpr sign⟩

/-- A literal is exact and shows its own end. Before any text, reading takes the literal and nothing
else, and gives the text that was quoted; the literal holds no control character and ends no line. -/
theorem read_quote_inLine (value rest : String) :
    read (quote value ++ rest).toList = some (value, rest.toList) ∧
      ∀ c ∈ (quote value).toList, Text.isControl c = false ∧ isLineEnd c = false := by
  rw [String.toList_append]
  exact ⟨read_quote value rest.toList, inLine_quote value⟩

/-! ## Reading takes something -/

theorem exists_of_prepend {c : Char} {read : Option (List Char × List Char)}
    {text after : List Char} (found : read.map (prepend c) = some (text, after)) :
    ∃ others, read = some (others, after) := by
  cases read with
  | none => simp at found
  | some pair =>
    simp only [Option.map_some, prepend, Option.some.injEq, Prod.mk.injEq] at found
    exact ⟨pair.1, by rw [← found.2]⟩

theorem length_of_decode {chars text after : List Char}
    (found : decode chars = some (text, after)) : after.length < chars.length := by
  fun_induction decode chars generalizing text with
  | case1 => simp at found
  | case2 rest =>
    simp only [Option.some.injEq, Prod.mk.injEq] at found
    simp [← found.2]
  | case3 a b c d rest ih =>
    obtain ⟨_, _, later⟩ := Option.bind_eq_some_iff.mp found
    obtain ⟨_, read⟩ := exists_of_prepend later
    have shorter := ih read
    simp only [List.length_cons]
    omega
  | case4 c rest _ ih =>
    obtain ⟨_, _, later⟩ := Option.bind_eq_some_iff.mp found
    obtain ⟨_, read⟩ := exists_of_prepend later
    have shorter := ih read
    simp only [List.length_cons]
    omega
  | case5 => simp at found
  | case6 c rest _ _ _ _ ih =>
    obtain ⟨_, read⟩ := exists_of_prepend found
    have shorter := ih read
    simp only [List.length_cons]
    omega

/-- Reading a literal takes at least its first quote. -/
theorem length_of_read {chars after : List Char} {value : String}
    (found : read chars = some (value, after)) : after.length < chars.length := by
  unfold read at found
  split at found
  · next rest =>
    obtain ⟨pair, decoded, same⟩ := Option.map_eq_some_iff.mp found
    simp only [Prod.mk.injEq] at same
    rw [← same.2]
    have shorter := length_of_decode decoded
    simp only [List.length_cons]
    omega
  · simp at found

end NativeViews.Script.Quoted
