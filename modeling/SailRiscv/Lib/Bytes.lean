/-
# Byte memories

A memory is a function from addresses to bytes.  `read m a n` is the little-endian value of
the `n` bytes at `a`, and `write m a n v` stores the lowest `n` bytes of `v` there.
-/
import Mathlib

namespace Bytes

/-- The little-endian value of the `n` bytes at `a`, as a number. -/
def readNat (m : ℕ → BitVec 8) (a : ℕ) : ℕ → ℕ
  | 0 => 0
  | n + 1 => 2 ^ 8 * readNat m (a + 1) n + (m a).toNat

/-- The little-endian value of the `n` bytes at `a`. -/
def read (m : ℕ → BitVec 8) (a n : ℕ) : BitVec (8 * n) := BitVec.ofNat (8 * n) (readNat m a n)

/-- Store the lowest `n` bytes of `v` at `a`. -/
def write {w : ℕ} (m : ℕ → BitVec 8) (a n : ℕ) (v : BitVec w) : ℕ → BitVec 8 :=
  fun b => if a ≤ b ∧ b < a + n then v.extractLsb' (8 * (b - a)) 8 else m b

/-! ## Reading -/

theorem testBit_readNat (m : ℕ → BitVec 8) (a n i : ℕ) (h : i < 8 * n) :
    (readNat m a n).testBit i = (m (a + i / 8)).getLsbD (i % 8) := by
  induction n generalizing a i with
  | zero => omega
  | succ n ih =>
      rw [readNat, Nat.testBit_two_pow_mul_add _ (m a).isLt]
      by_cases hi : i < 8
      · rw [if_pos hi, BitVec.testBit_toNat, Nat.div_eq_of_lt hi, Nat.mod_eq_of_lt hi, add_zero]
      · rw [if_neg hi, ih (a + 1) (i - 8) (by omega),
          show a + 1 + (i - 8) / 8 = a + i / 8 by omega, show (i - 8) % 8 = i % 8 by omega]

/-- Bit `i` of a value lies in byte `i / 8`. -/
theorem getLsbD_read (m : ℕ → BitVec 8) (a n i : ℕ) (h : i < 8 * n) :
    (read m a n).getLsbD i = (m (a + i / 8)).getLsbD (i % 8) := by
  rw [read, BitVec.getLsbD_ofNat, testBit_readNat m a n i h]
  simp [h]

/-- A value depends on its own bytes only. -/
theorem read_congr {m m' : ℕ → BitVec 8} {a n : ℕ} (h : ∀ i < n, m' (a + i) = m (a + i)) :
    read m' a n = read m a n := by
  apply BitVec.eq_of_getLsbD_eq
  intro i hi
  rw [getLsbD_read m' a n i hi, getLsbD_read m a n i hi, h (i / 8) (by omega)]

/-! ## Reading after writing -/

theorem write_of_not_mem {w : ℕ} (m : ℕ → BitVec 8) {a n b : ℕ} (v : BitVec w)
    (h : b < a ∨ a + n ≤ b) : write m a n v b = m b := by
  rw [write, if_neg (by omega)]

/-- A value that is written is read back. -/
theorem read_write (m : ℕ → BitVec 8) (a n : ℕ) (v : BitVec (8 * n)) :
    read (write m a n v) a n = v := by
  apply BitVec.eq_of_getLsbD_eq
  intro i hi
  rw [getLsbD_read _ a n i hi, write, if_pos (by omega), BitVec.getLsbD_extractLsb',
    show 8 * (a + i / 8 - a) + i % 8 = i by omega]
  simp [show i % 8 < 8 by omega]

/-- Some of the bytes of a value that is written are read back. -/
theorem read_write_within (m : ℕ → BitVec 8) (a : ℕ) {n k j : ℕ} (v : BitVec (8 * n))
    (h : k + j ≤ n) : read (write m a n v) (a + k) j = v.extractLsb' (8 * k) (8 * j) := by
  apply BitVec.eq_of_getLsbD_eq
  intro i hi
  rw [getLsbD_read _ _ j i hi, write, if_pos (by omega), BitVec.getLsbD_extractLsb',
    BitVec.getLsbD_extractLsb', show 8 * (a + k + i / 8 - a) + i % 8 = 8 * k + i by omega]
  simp [hi, show i % 8 < 8 by omega]

/-- A write elsewhere does not change a value. -/
theorem read_write_of_disjoint {w : ℕ} (m : ℕ → BitVec 8) {a n b k : ℕ} (v : BitVec w)
    (h : a + n ≤ b ∨ b + k ≤ a) : read (write m a n v) b k = read m b k := by
  apply read_congr
  intro i hi
  exact write_of_not_mem m v (by omega)

/-- Writing back the value that is there changes nothing. -/
theorem write_read (m : ℕ → BitVec 8) (a n : ℕ) : write m a n (read m a n) = m := by
  funext b
  by_cases h : a ≤ b ∧ b < a + n
  · rw [write, if_pos h]
    apply BitVec.eq_of_getLsbD_eq
    intro i hi
    rw [BitVec.getLsbD_extractLsb', getLsbD_read m a n _ (by omega),
      show a + (8 * (b - a) + i) / 8 = b by omega, show (8 * (b - a) + i) % 8 = i by omega]
    simp [hi]
  · exact write_of_not_mem m _ (by omega)

/-- A write changes nothing but the bits `P` of its first byte exactly when the new value
differs from the old one in these bits only. -/
theorem write_changes_iff (m : ℕ → BitVec 8) (a n : ℕ) (v : BitVec (8 * n)) {P : ℕ → Prop}
    (hP : ∀ j, P j → j < 8) :
    (∀ b i, (write m a n v b).getLsbD i ≠ (m b).getLsbD i → b = a ∧ P i)
      ↔ ∀ j < 8 * n, ¬ P j → v.getLsbD j = (read m a n).getLsbD j := by
  constructor
  · intro h j hj hPj
    rw [getLsbD_read m a n j hj]
    by_contra hne
    have hbit : (write m a n v (a + j / 8)).getLsbD (j % 8) = v.getLsbD j := by
      rw [write, if_pos (by omega), BitVec.getLsbD_extractLsb',
        show 8 * (a + j / 8 - a) + j % 8 = j by omega]
      simp [show j % 8 < 8 by omega]
    rw [← hbit] at hne
    obtain ⟨hb, hPi⟩ := h _ _ hne
    rw [show j % 8 = j by omega] at hPi
    exact hPj hPi
  · intro h b i hne
    by_cases hb : a ≤ b ∧ b < a + n
    · by_cases hi : i < 8
      · rw [write, if_pos hb, BitVec.getLsbD_extractLsb'] at hne
        simp only [hi, decide_true, Bool.true_and] at hne
        have hPj : P (8 * (b - a) + i) := by
          by_contra hPj
          rw [h _ (by omega) hPj, getLsbD_read m a n _ (by omega),
            show a + (8 * (b - a) + i) / 8 = b by omega,
            show (8 * (b - a) + i) % 8 = i by omega] at hne
          exact hne rfl
        have hlt := hP _ hPj
        have h0 : 8 * (b - a) = 0 := by omega
        rw [h0, Nat.zero_add] at hPj
        exact ⟨by omega, hPj⟩
      · rw [BitVec.getLsbD_of_ge _ i (by omega), BitVec.getLsbD_of_ge _ i (by omega)] at hne
        exact absurd rfl hne
    · rw [write_of_not_mem m v (by omega)] at hne
      exact absurd rfl hne

end Bytes
