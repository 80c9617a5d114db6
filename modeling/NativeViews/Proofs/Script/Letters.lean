import NativeViews.Script.Identifier

/-!
Identifiers in ASCII. There the letters and numerals are the Latin letters and the digits, so a
name in ASCII is an identifier by its spelling.
-/

namespace NativeViews.Script

open Text (Ranges)

/-- Ranges that begin at a bound or later hold no character below the bound. -/
theorem holds_below {low high : Ranges} {bound : Nat} {c : Char} (below : c.toNat < bound)
    (above : ∀ range ∈ high, bound ≤ range.1) : (low ++ high).holds c = low.holds c := by
  rw [Bool.eq_iff_iff, Ranges.holds_iff, Ranges.holds_iff]
  constructor
  · rintro ⟨range, member, first, last⟩
    rcases List.mem_append.mp member with here | later
    · exact ⟨range, here, first, last⟩
    · have late := above range later
      omega
  · rintro ⟨range, member, bounds⟩
    exact ⟨range, List.mem_append_left high member, bounds⟩

/-- Past the first ranges of letters and of numerals, none begins in ASCII. -/
theorem ascii_ranges :
    (∀ range ∈ Text.alphabeticRanges.drop 2, 0x80 ≤ range.1) ∧
      ∀ range ∈ Text.numericRanges.drop 1, 0x80 ≤ range.1 := by
  decide +kernel

theorem isAlphabetic_of_ascii {c : Char} (ascii : c.toNat < 0x80) :
    Text.isAlphabetic c = c.isAlpha := by
  have split : Text.alphabeticRanges
      = [(0x41, 0x5A), (0x61, 0x7A)] ++ Text.alphabeticRanges.drop 2 := rfl
  have letters : c.isAlpha = (decide ('A'.val ≤ c.val ∧ c.val ≤ 'Z'.val)
      || (decide ('a'.val ≤ c.val) && decide (c.val ≤ 'z'.val))) := rfl
  rw [Text.isAlphabetic, split, holds_below ascii ascii_ranges.1, letters, Bool.eq_iff_iff]
  simp [Ranges.holds, UInt32.le_iff_toNat_le, ← Char.toNat_val]

theorem isNumeric_of_ascii {c : Char} (ascii : c.toNat < 0x80) :
    Text.isNumeric c = c.isDigit := by
  have split : Text.numericRanges = [(0x30, 0x39)] ++ Text.numericRanges.drop 1 := rfl
  rw [Text.isNumeric, split, holds_below ascii ascii_ranges.2, Bool.eq_iff_iff]
  simp [Ranges.holds, Char.isDigit, UInt32.le_iff_toNat_le, ← Char.toNat_val]

@[simp] theorem startsIdentifier_of_ascii {c : Char} (ascii : c.toNat < 0x80) :
    startsIdentifier c = (c = '_' || c = '$' || c.isAlpha) := by
  rw [startsIdentifier, isAlphabetic_of_ascii ascii]

@[simp] theorem continuesIdentifier_of_ascii {c : Char} (ascii : c.toNat < 0x80) :
    continuesIdentifier c = (c = '_' || c = '$' || c.isAlphanum) := by
  rw [continuesIdentifier, Text.isAlphanumeric, isAlphabetic_of_ascii ascii,
    isNumeric_of_ascii ascii, Char.isAlphanum]

example : isIdentifier "__INTERNAL_VIEW_CONFIG" := by
  simp [isIdentifier]

end NativeViews.Script
