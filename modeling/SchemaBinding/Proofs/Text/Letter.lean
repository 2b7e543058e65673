import SchemaBinding.Text.Ascii
import Mathlib

/-! Letters and digits, and what a change of case leaves of them. -/
namespace SchemaBinding
namespace Text

theorem isUpper_iff_toNat {c : Char} : c.isUpper = true ↔ 65 ≤ c.toNat ∧ c.toNat ≤ 90 := by
  simp [Char.isUpper, UInt32.le_iff_toNat_le]

theorem isLower_iff_toNat {c : Char} : c.isLower = true ↔ 97 ≤ c.toNat ∧ c.toNat ≤ 122 := by
  simp [Char.isLower, UInt32.le_iff_toNat_le]

theorem isDigit_iff_toNat {c : Char} : c.isDigit = true ↔ 48 ≤ c.toNat ∧ c.toNat ≤ 57 := by
  simp [Char.isDigit, UInt32.le_iff_toNat_le]

theorem isAlphanum_eq (c : Char) : c.isAlphanum = (c.isAlpha || c.isDigit) := rfl

theorem isDigit_eq_false_of_isAlpha {c : Char} (h : c.isAlpha = true) : c.isDigit = false := by
  rw [Char.isAlpha, Bool.or_eq_true, isUpper_iff_toNat, isLower_iff_toNat] at h
  rw [← Bool.not_eq_true, isDigit_iff_toNat]
  omega

theorem isLower_eq_false_of_isUpper {c : Char} (h : c.isUpper = true) : c.isLower = false := by
  rw [isUpper_iff_toNat] at h
  rw [← Bool.not_eq_true, isLower_iff_toNat]
  omega

theorem isUpper_eq_false_of_isAlphanum {c : Char} (h : c.isAlphanum = false) :
    c.isUpper = false := by
  rw [isAlphanum_eq, Char.isAlpha, Bool.or_eq_false_iff, Bool.or_eq_false_iff] at h
  exact h.1.1

theorem isLower_eq_false_of_isAlphanum {c : Char} (h : c.isAlphanum = false) :
    c.isLower = false := by
  rw [isAlphanum_eq, Char.isAlpha, Bool.or_eq_false_iff, Bool.or_eq_false_iff] at h
  exact h.1.2

theorem isAscii_of_isAlphanum {c : Char} (h : c.isAlphanum = true) : isAscii c = true := by
  rw [isAlphanum_eq, Char.isAlpha, Bool.or_eq_true, Bool.or_eq_true, isUpper_iff_toNat,
    isLower_iff_toNat, isDigit_iff_toNat] at h
  rw [isAscii, decide_eq_true_eq]
  omega

@[simp] theorem isDigit_toUpper (c : Char) : c.toUpper.isDigit = c.isDigit := by
  by_cases h : c.isLower = true
  · have hc : c.isAlpha = true := by simp [Char.isAlpha, h]
    have hupper : c.toUpper.isAlpha = true := by simpa using hc
    rw [isDigit_eq_false_of_isAlpha hc, isDigit_eq_false_of_isAlpha hupper]
  · rw [Char.toUpper_eq_of_not_isLower h]

@[simp] theorem isDigit_toLower (c : Char) : c.toLower.isDigit = c.isDigit := by
  by_cases h : c.isUpper = true
  · have hc : c.isAlpha = true := by simp [Char.isAlpha, h]
    have hlower : c.toLower.isAlpha = true := by simpa using hc
    rw [isDigit_eq_false_of_isAlpha hc, isDigit_eq_false_of_isAlpha hlower]
  · rw [Char.toLower_eq_of_not_isUpper h]

@[simp] theorem isAlphanum_toUpper (c : Char) : c.toUpper.isAlphanum = c.isAlphanum := by
  simp [isAlphanum_eq]

@[simp] theorem isAlphanum_toLower (c : Char) : c.toLower.isAlphanum = c.isAlphanum := by
  simp [isAlphanum_eq]

theorem toLower_eq_self_iff {c : Char} : c.toLower = c ↔ c.isUpper = false := by
  constructor
  · intro h
    rw [← h]
    exact Char.isUpper_toLower_eq_false c
  · intro h
    exact Char.toLower_eq_of_not_isUpper (by simp [h])

theorem toLower_eq_iff_of_not_isAlpha {c d : Char} (hd : d.isAlpha = false) :
    c.toLower = d ↔ c = d := by
  by_cases hc : c.isUpper = true
  · have halpha : c.toLower.isAlpha = c.isAlpha := by simp
    constructor
    · intro h
      rw [h, hd] at halpha
      simp [Char.isAlpha, hc] at halpha
    · rintro rfl
      simp [Char.isAlpha, hc] at hd
  · rw [Char.toLower_eq_of_not_isUpper hc]

theorem toUpper_eq_self_iff {c : Char} (hc : c.isAlpha = true) :
    c.toUpper = c ↔ c.isUpper = true := by
  constructor
  · intro h
    rw [← h, Char.isUpper_toUpper_eq_isAlpha, hc]
  · intro h
    exact Char.toUpper_eq_of_not_isLower (by simp [isLower_eq_false_of_isUpper h])

theorem map_toLower_eq_self_iff {cs : List Char} :
    cs.map Char.toLower = cs ↔ ∀ c ∈ cs, c.isUpper = false := by
  constructor
  · intro h c hc
    rw [← h] at hc
    obtain ⟨d, -, rfl⟩ := List.mem_map.mp hc
    exact Char.isUpper_toLower_eq_false d
  · intro h
    exact (List.map_congr_left fun c hc => toLower_eq_self_iff.mpr (h c hc)).trans (List.map_id' cs)

end Text
end SchemaBinding
