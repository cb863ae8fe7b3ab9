/-
# Lanes of a bit vector

A bit vector read as lanes of `w` bits, the lowest first. Two vectors are equal when their lanes
are, and the lanes of a concatenation are those of its parts.
-/
import Mathlib

namespace Bits

/-- Lane `i` of `w` bits. -/
def lane {n : ℕ} (w : ℕ) (v : BitVec n) (i : ℕ) : BitVec w := v.extractLsb' (w * i) w

section

variable {m n w : ℕ}

/-- A vector of one lane. -/
theorem lane_self (v : BitVec w) : lane w v 0 = v := by
  unfold lane
  rw [Nat.mul_zero, BitVec.extractLsb'_eq_self]

/-- The first lanes of a concatenation. -/
theorem lane_append_of_lt (x : BitVec m) (y : BitVec n) {i : ℕ} (h : w * (i + 1) ≤ n) :
    lane w (x ++ y) i = lane w y i := by
  unfold lane
  exact BitVec.extractLsb'_append_eq_of_add_le h

/-- The lanes of a concatenation above its lower part. -/
theorem lane_append_of_le (x : BitVec m) (y : BitVec n) {i p : ℕ} (hn : n = w * p) (h : p ≤ i) :
    lane w (x ++ y) i = lane w x (i - p) := by
  unfold lane
  rw [BitVec.extractLsb'_append_eq_of_le (hn ▸ Nat.mul_le_mul_left w h), hn, ← Nat.mul_sub]

/-- The first lane of a vector that ends with it. -/
theorem lane_append_zero (x : BitVec m) (y : BitVec w) : lane w (x ++ y) 0 = y := by
  rw [lane_append_of_lt x y (Nat.mul_one w).le, lane_self]

/-- The other lanes of a vector that ends with one. -/
theorem lane_append_succ (x : BitVec m) (y : BitVec w) (i : ℕ) :
    lane w (x ++ y) (i + 1) = lane w x i := by
  rw [lane_append_of_le x y (Nat.mul_one w).symm (Nat.le_add_left 1 i), Nat.add_sub_cancel]

/-- Four lanes put together. -/
theorem lane_four (b : ℕ → BitVec w) {i : ℕ} (hi : i < 4) :
    lane w (b 3 ++ b 2 ++ b 1 ++ b 0) i = b i := by
  rcases i with _ | _ | _ | _ | i
  · exact lane_append_zero _ _
  · rw [lane_append_succ, lane_append_zero]
  · rw [lane_append_succ, lane_append_succ, lane_append_zero]
  · rw [lane_append_succ, lane_append_succ, lane_append_succ, lane_self]
  · omega

/-- Eight lanes put together. -/
theorem lane_eight (b : ℕ → BitVec w) {i : ℕ} (hi : i < 8) :
    lane w (b 7 ++ b 6 ++ b 5 ++ b 4 ++ b 3 ++ b 2 ++ b 1 ++ b 0) i = b i := by
  rcases i with _ | _ | _ | _ | i
  · exact lane_append_zero _ _
  · rw [lane_append_succ, lane_append_zero]
  · rw [lane_append_succ, lane_append_succ, lane_append_zero]
  · rw [lane_append_succ, lane_append_succ, lane_append_succ, lane_append_zero]
  · rw [lane_append_succ, lane_append_succ, lane_append_succ, lane_append_succ]
    exact lane_four (fun j => b (j + 4)) (by omega)

/-- The lanes of an exclusive or. -/
theorem lane_xor (x y : BitVec n) (i : ℕ) : lane w (x ^^^ y) i = lane w x i ^^^ lane w y i :=
  BitVec.extractLsb'_xor

/-- Two vectors of `k` lanes are equal when their lanes are. -/
theorem eq_of_lane_eq {x y : BitVec n} {k : ℕ} (hn : n ≤ w * k)
    (h : ∀ i < k, lane w x i = lane w y i) : x = y := by
  apply BitVec.eq_of_getLsbD_eq
  intro i hi
  have hw : 0 < w := by
    rcases Nat.eq_zero_or_pos w with h0 | h0
    · rw [h0, Nat.zero_mul] at hn
      omega
    · exact h0
  have hlane := h (i / w) ((Nat.div_lt_iff_lt_mul hw).mpr (by rw [Nat.mul_comm]; omega))
  have hbit := congrArg (fun v => v.getLsbD (i % w)) hlane
  simpa [lane, Nat.mod_lt i hw, Nat.div_add_mod] using hbit

/-- A lane of a lane, both counted in lanes of the smaller width. -/
theorem lane_lane {a k : ℕ} (v : BitVec n) {i j : ℕ} (ha : a = w * k) (hj : j < k) :
    lane w (lane a v i) j = lane w v (k * i + j) := by
  apply BitVec.eq_of_getLsbD_eq
  intro b hb
  have hin : w * j + b < a := by
    calc w * j + b < w * j + w := by omega
      _ = w * (j + 1) := by rw [Nat.mul_add, Nat.mul_one]
      _ ≤ w * k := Nat.mul_le_mul_left w hj
      _ = a := ha.symm
  unfold lane
  rw [BitVec.getLsbD_extractLsb', BitVec.getLsbD_extractLsb', BitVec.getLsbD_extractLsb',
    decide_eq_true hb, decide_eq_true hin, Bool.true_and, Bool.true_and, Bool.true_and]
  congr 1
  rw [ha, Nat.mul_add, Nat.mul_assoc, Nat.add_assoc]

end

end Bits
