import Mathlib.Data.List.Basic
import NativeViews.Json.Record
import NativeViews.Proofs.Json.Records

/-!
Integers of documents: their decimal digits spell them, whatever their size, and what is read from
them is the integer that was written, as long as the reader takes integers of its size.
-/

namespace NativeViews.Json

/-- Only zero has digits that begin with zero. -/
theorem eq_zero_of_head?_toDigits {n : Nat} (leading : (Nat.toDigits 10 n).head? = some '0') :
    n = 0 := by
  induction n using Nat.base_induction 10 (by decide) with
  | single digit small =>
    rw [Nat.toDigits_of_lt_base small, List.head?_cons, Option.some.injEq] at leading
    exact Nat.digitChar_eq_zero.mp leading
  | digit front last small positive ih =>
    rw [← Nat.toDigits_append_toDigits (by decide) positive small,
      List.head?_append_of_ne_nil _ Nat.toDigits_ne_nil] at leading
    exact absurd (ih leading) (Nat.ne_of_gt positive)

theorem Numeral.wellFormed_ofInt (n : Int) : (Numeral.ofInt n).WellFormed where
  whole := by
    refine ⟨Nat.toDigits_ne_nil, List.all_eq_true.mpr ?_⟩
    intro digit member
    exact Nat.isDigit_of_mem_toDigits (by decide) (by decide) member
  leading := by
    intro leading
    change (Nat.toDigits 10 n.natAbs).length = 1
    rw [eq_zero_of_head?_toDigits leading, Nat.toDigits_zero, List.length_singleton]
  fraction := nofun
  exponent := nofun

theorem spelled_int (n : Int) : (int n).Spelled :=
  .scalar (.number (Numeral.wellFormed_ofInt n))

theorem Numeral.toInt?_ofInt (n : Int) : (Numeral.ofInt n).toInt? = some n := by
  have value : digitsValue (Nat.toDigits 10 n.natAbs) = n.natAbs := by
    rw [digitsValue, ← Nat.ofDigitChars_eq_foldl, Nat.ofDigitChars_ten_toDigits]
  by_cases negative : n < 0
  · have positive : n.natAbs ≠ 0 := Int.natAbs_ne_zero.mpr (Int.ne_of_lt negative)
    have back : -(n.natAbs : Int) = n := by omega
    simp only [toInt?, ofInt, value, decide_eq_true negative, if_true, if_neg positive, back]
  · have back : (n.natAbs : Int) = n := by omega
    simp only [toInt?, ofInt, value, decide_eq_false negative, Bool.false_eq_true, if_false, back]

/-- What is read is what was written, or nothing. -/
theorem int?_int (low high n : Int) :
    (int n).int? low high = if low ≤ n ∧ n ≤ high then some n else none := by
  rw [int, int?, Numeral.toInt?_ofInt, Option.bind_some]

end NativeViews.Json
