/-
# Concatenation of bit vectors

A concatenation is determined by its parts: `x ++ y = v` says that `x` is the upper range of
`v` and `y` the lower one.  Applied again and again, this splits an equation between a word and
the concatenation of its fields into one equation for each field.
-/
import Mathlib

namespace Bits

/-- A range of a range. -/
theorem extractLsb'_extractLsb' {k : ℕ} (v : BitVec k) (i n j m : ℕ) (h : j + m ≤ n) :
    (v.extractLsb' i n).extractLsb' j m = v.extractLsb' (i + j) m := by
  apply BitVec.eq_of_getLsbD_eq
  intro a ha
  simp only [BitVec.getLsbD_extractLsb', ha, decide_true, Bool.true_and]
  rw [decide_eq_true (by omega), Bool.true_and, Nat.add_assoc]

/-- A concatenation is determined by its two parts. -/
theorem append_eq_iff {m n : ℕ} {x : BitVec m} {y : BitVec n} {v : BitVec (m + n)} :
    x ++ y = v ↔ x = v.extractLsb' n m ∧ y = v.extractLsb' 0 n := by
  constructor
  · rintro rfl
    exact ⟨BitVec.extractLsb'_append_eq_left.symm, BitVec.extractLsb'_append_eq_right.symm⟩
  · rintro ⟨rfl, rfl⟩
    exact BitVec.extractLsb'_append_extractLsb'

/-- A concatenation is a range when its parts are the two parts of the range. -/
theorem append_eq_extractLsb' {k m n i : ℕ} {x : BitVec m} {y : BitVec n} {v : BitVec k} :
    x ++ y = v.extractLsb' i (m + n) ↔
      x = v.extractLsb' (i + n) m ∧ y = v.extractLsb' i n := by
  rw [append_eq_iff, extractLsb'_extractLsb' v i (m + n) n m (by omega),
    extractLsb'_extractLsb' v i (m + n) 0 n (by omega), Nat.add_zero]

end Bits
