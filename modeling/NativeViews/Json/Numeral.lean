import NativeViews.Json.Basic

/-!
The value of a numeral: as an integer, or as a number of double precision, where all that
matters here is whether it is too large for one.
-/

namespace NativeViews.Json.Numeral

/-- The number that decimal digits spell. -/
def digitsValue (digits : List Char) : Nat :=
  digits.foldl (fun value digit => 10 * value + (digit.toNat - '0'.toNat)) 0

/-- The integer that a numeral without fraction and exponent spells. A negative zero is no
integer. -/
def toInt? (numeral : Numeral) : Option Int :=
  match numeral.fraction, numeral.exponent with
  | none, none =>
    let value := digitsValue numeral.whole
    if numeral.negative then
      if value = 0 then none else some (-value)
    else
      some value
  | _, _ => none

/-- `n` rounded to 53 significant bits, a tie to the even neighbour. -/
def roundToDouble (n : Nat) : Nat :=
  let shift := n.log2 - 52
  let unit := Nat.pow 2 shift
  let kept := n / unit
  let rest := 2 * (n % unit)
  let rounded := if rest > unit ∨ (rest = unit ∧ kept % 2 = 1) then kept + 1 else kept
  rounded * unit

/-- The first number that rounds to infinity has this many binary digits after the first. -/
def doubleLimit : Nat := Nat.pow 2 1024

/-- Takes digits into a significand while it fits into 64 bits. Gives the significand, how many
digits it took, and how many it left. -/
def takeDigits (significand : Nat) : List Char → Nat × Nat × Nat
  | [] => (significand, 0, 0)
  | digit :: rest =>
    let next := 10 * significand + (digit.toNat - '0'.toNat)
    if next < Nat.pow 2 64 then
      let (final, taken, left) := takeDigits next rest
      (final, taken + 1, left)
    else
      (significand, 0, rest.length + 1)

/-- The numeral as a significand of at most 64 bits and a power of ten: digits of the whole part
that do not fit count in the power, digits of the fraction that do not fit are dropped. -/
def scaled (numeral : Numeral) : Nat × Int :=
  let (whole, _, left) := takeDigits 0 numeral.whole
  let (significand, taken, _) := takeDigits whole (numeral.fraction.getD [])
  let exponent : Int :=
    match numeral.exponent with
    | none => 0
    | some (negative, digits) => if negative then -digitsValue digits else digitsValue digits
  (significand, (left : Int) - taken + exponent)

/-- Whether the numeral is too large for a double. The significand and the power of ten are each
rounded before they are multiplied. -/
def overflows (numeral : Numeral) : Bool :=
  let (significand, power) := numeral.scaled
  if significand = 0 ∨ power < 0 then false
  else if power > 308 then true
  else doubleLimit ≤
    roundToDouble (roundToDouble significand * roundToDouble (Nat.pow 10 power.toNat))

end NativeViews.Json.Numeral
