/-
# Binary floating-point magnitudes

The magnitude that an exponent field and a fraction field of a binary format stand for, as a
multiple of the least positive magnitude of the format. Everything here is stated for an arbitrary
width of the fraction and an arbitrary bias.

* `scaled m e t` : the magnitude with the exponent field `e` and the fraction field `t` of `m`
  bits, in units of the least positive magnitude;
* `magnitude m b e t` : the magnitude itself, for a bias `b`;
* `key m e t` : the two fields as one number, which the magnitudes are ordered by.
-/
import Mathlib

namespace BinaryFloat

/-- The magnitude in units of the least positive one. -/
def scaled (m e t : ℕ) : ℕ := if e = 0 then t else (2 ^ m + t) * 2 ^ (e - 1)

/-- The magnitude. -/
def magnitude (m b e t : ℕ) : ℚ := scaled m e t * 2 ^ ((1 : ℤ) - b - m)

/-- The two fields as one number. -/
def key (m e t : ℕ) : ℕ := e * 2 ^ m + t

section

variable {m b e t e' t' : ℕ}

/-- The unit is positive. -/
theorem unit_pos (m b : ℕ) : (0 : ℚ) < 2 ^ ((1 : ℤ) - b - m) := by
  positivity

/-- The magnitude of a normal number. -/
theorem scaled_of_ne (h : e ≠ 0) : scaled m e t = (2 ^ m + t) * 2 ^ (e - 1) := by
  unfold scaled
  rw [if_neg h]

/-- The magnitude of a subnormal number. -/
theorem scaled_zero : scaled m 0 t = t := by
  unfold scaled
  rw [if_pos rfl]

/-- A magnitude is less than the one with the next exponent and no fraction. -/
theorem scaled_lt_next (ht : t < 2 ^ m) : scaled m e t < 2 ^ m * 2 ^ e := by
  rcases Nat.eq_zero_or_pos e with rfl | he
  · rw [scaled_zero, pow_zero, Nat.mul_one]
    exact ht
  · rw [scaled_of_ne (by omega)]
    calc (2 ^ m + t) * 2 ^ (e - 1) < 2 * 2 ^ m * 2 ^ (e - 1) :=
          Nat.mul_lt_mul_of_pos_right (by omega) (by positivity)
      _ = 2 ^ m * 2 ^ e := by
          rw [Nat.mul_comm 2, Nat.mul_assoc, ← pow_succ', Nat.sub_add_cancel he]

/-- A normal magnitude is at least the one with the same exponent and no fraction. -/
theorem le_scaled (he : e ≠ 0) : 2 ^ m * 2 ^ (e - 1) ≤ scaled m e t := by
  rw [scaled_of_ne he]
  exact Nat.mul_le_mul_right _ (by omega)

/-- The fields are read back from the one number. -/
theorem key_inj (ht : t < 2 ^ m) (ht' : t' < 2 ^ m) (h : key m e t = key m e' t') :
    e = e' ∧ t = t' := by
  unfold key at h
  have hexp : e = e' := by
    rcases Nat.lt_trichotomy e e' with hlt | heq | hgt
    · have hle : (e + 1) * 2 ^ m ≤ e' * 2 ^ m := Nat.mul_le_mul_right _ hlt
      rw [Nat.add_mul] at hle
      omega
    · exact heq
    · have hle : (e' + 1) * 2 ^ m ≤ e * 2 ^ m := Nat.mul_le_mul_right _ hgt
      rw [Nat.add_mul] at hle
      omega
  subst hexp
  exact ⟨rfl, by omega⟩

/-- The magnitudes are ordered as their fields. -/
theorem scaled_lt (ht : t < 2 ^ m) (ht' : t' < 2 ^ m) (h : key m e t < key m e' t') :
    scaled m e t < scaled m e' t' := by
  unfold key at h
  rcases Nat.lt_trichotomy e e' with hlt | rfl | hgt
  · calc scaled m e t < 2 ^ m * 2 ^ e := scaled_lt_next ht
      _ ≤ 2 ^ m * 2 ^ (e' - 1) :=
          Nat.mul_le_mul_left _ (Nat.pow_le_pow_right (by decide) (by omega))
      _ ≤ scaled m e' t' := le_scaled (by omega)
  · have hfrac : t < t' := by omega
    unfold scaled
    by_cases he : e = 0
    · rw [if_pos he, if_pos he]
      exact hfrac
    · rw [if_neg he, if_neg he]
      exact Nat.mul_lt_mul_of_pos_right (by omega) (by positivity)
  · have hle : (e' + 1) * 2 ^ m ≤ e * 2 ^ m := Nat.mul_le_mul_right _ hgt
    rw [Nat.add_mul] at hle
    omega

/-- The magnitudes are ordered just as their fields. -/
theorem scaled_lt_iff (ht : t < 2 ^ m) (ht' : t' < 2 ^ m) :
    scaled m e t < scaled m e' t' ↔ key m e t < key m e' t' := by
  constructor
  · intro h
    by_contra hkey
    rcases (not_lt.mp hkey).lt_or_eq with hlt | heq
    · exact absurd (scaled_lt ht' ht hlt) (by omega)
    · obtain ⟨rfl, rfl⟩ := key_inj ht' ht heq
      exact absurd h (lt_irrefl _)
  · exact scaled_lt ht ht'

/-- The magnitude is the unit times the scaled one. -/
theorem magnitude_lt_iff (ht : t < 2 ^ m) (ht' : t' < 2 ^ m) :
    magnitude m b e t < magnitude m b e' t' ↔ key m e t < key m e' t' := by
  rw [← scaled_lt_iff ht ht']
  unfold magnitude
  rw [mul_lt_mul_iff_left₀ (unit_pos m b)]
  exact Nat.cast_lt

/-- A magnitude is not negative. -/
theorem magnitude_nonneg : 0 ≤ magnitude m b e t := by
  unfold magnitude
  positivity

/-- Only the fields of zero have the magnitude zero. -/
theorem magnitude_eq_zero : magnitude m b e t = 0 ↔ e = 0 ∧ t = 0 := by
  unfold magnitude
  rw [mul_eq_zero, or_iff_left (unit_pos m b).ne', Nat.cast_eq_zero]
  unfold scaled
  by_cases he : e = 0
  · rw [if_pos he]
    omega
  · rw [if_neg he]
    constructor
    · intro h
      have hpos : 0 < (2 ^ m + t) * 2 ^ (e - 1) := by positivity
      omega
    · omega

end

end BinaryFloat
