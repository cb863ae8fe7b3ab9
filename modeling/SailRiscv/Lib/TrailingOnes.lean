/-
# Trailing ones and aligned blocks

The number `t` of trailing ones of a natural number `n` selects the block of size
`2 ^ (t + 1)` around it: `n` is an aligned multiple of that size plus `2 ^ t - 1`.
The bit trick `n ^^^ (n + 1)` computes the mask of this block.  The last part reads
the trick in arithmetic modulo `2 ^ w`, where the block that fills or ends the whole
range of `w`-bit numbers is the exception.
-/
import SailRiscv.Lib.Bits

namespace Bits

/-- The number of trailing ones in the binary expansion of `n`. -/
noncomputable def trailingOnes (n : ℕ) : ℕ := padicValNat 2 (n + 1)

/-- The index of the block of `n`: `n` is `2 ^ (t + 1)` times this plus `2 ^ t - 1`. -/
noncomputable def blockIndex (n : ℕ) : ℕ := n / 2 ^ (trailingOnes n + 1)

/-- A number is determined by its trailing ones and the index of its block. -/
theorem eq_block_add (n : ℕ) :
    n = 2 ^ (trailingOnes n + 1) * blockIndex n + (2 ^ trailingOnes n - 1) := by
  obtain ⟨m, hm⟩ := (pow_padicValNat_dvd : 2 ^ padicValNat 2 (n + 1) ∣ n + 1)
  have hmax : ¬ 2 ^ (padicValNat 2 (n + 1) + 1) ∣ n + 1 := by
    intro hdvd
    have hle := (padicValNat_dvd_iff_le (p := 2) (by omega : n + 1 ≠ 0)).mp hdvd
    omega
  unfold blockIndex trailingOnes
  generalize padicValNat 2 (n + 1) = t at hm hmax
  have hodd : m % 2 = 1 := by
    by_contra hne
    obtain ⟨j, hj⟩ : 2 ∣ m := Nat.dvd_of_mod_eq_zero (by omega)
    exact hmax ⟨j, by rw [hm, hj, pow_succ]; ring⟩
  have hpos : 0 < 2 ^ t := Nat.two_pow_pos _
  have hn : n = 2 ^ (t + 1) * (m / 2) + (2 ^ t - 1) := by
    have h2 : m = 2 * (m / 2) + 1 := by omega
    have h3 : n + 1 = 2 ^ t * (2 * (m / 2) + 1) := by rw [← h2]; exact hm
    have h4 : 2 ^ t * (2 * (m / 2) + 1) = 2 ^ (t + 1) * (m / 2) + 2 ^ t := by ring
    omega
  have hlt : 2 ^ t - 1 < 2 ^ (t + 1) := by rw [pow_succ]; omega
  have hdiv : n / 2 ^ (t + 1) = m / 2 := by
    rw [hn, Nat.mul_add_div (Nat.two_pow_pos _), Nat.div_eq_of_lt hlt, add_zero]
  rw [hdiv]
  exact hn

/-- The bits of a number below its trailing ones are ones, the next one is zero. -/
theorem testBit_of_le_trailingOnes (n i : ℕ) (h : i ≤ trailingOnes n) :
    n.testBit i = decide (i < trailingOnes n) := by
  have hlt : 2 ^ trailingOnes n - 1 < 2 ^ (trailingOnes n + 1) := by
    have := Nat.two_pow_pos (trailingOnes n)
    rw [pow_succ]
    omega
  have hn := eq_block_add n
  generalize trailingOnes n = t at *
  rw [hn, Nat.testBit_two_pow_mul_add _ hlt, if_pos (by omega), Nat.testBit_two_pow_sub_one]

/-- If the lowest `m` bits of `n` are ones, there are at least `m` trailing ones. -/
theorem le_trailingOnes (n m : ℕ) (h : ∀ i < m, n.testBit i = true) : m ≤ trailingOnes n := by
  by_contra hlt
  have h1 := h (trailingOnes n) (by omega)
  rw [testBit_of_le_trailingOnes n _ le_rfl] at h1
  simp at h1

/-- The block of `n` starts at `n` with its trailing ones and the next bit cleared. -/
theorem div_mul_eq_blockIndex (n : ℕ) :
    n / 2 ^ (trailingOnes n + 1) * 2 ^ (trailingOnes n + 1)
      = 2 ^ (trailingOnes n + 1) * blockIndex n := by
  rw [blockIndex, mul_comm]

/-- The mask of the block around `n`. -/
theorem xor_succ (n : ℕ) : n ^^^ (n + 1) = 2 ^ (trailingOnes n + 1) - 1 := by
  have h := eq_block_add n
  have hpos : 0 < 2 ^ trailingOnes n := Nat.two_pow_pos _
  generalize trailingOnes n = t at h hpos ⊢
  generalize blockIndex n = k at h
  have h1 : 2 ^ t - 1 < 2 ^ (t + 1) := by rw [pow_succ]; omega
  have h2 : 2 ^ t < 2 ^ (t + 1) := by rw [pow_succ]; omega
  have hs : n + 1 = 2 ^ (t + 1) * k + 2 ^ t := by omega
  apply Nat.eq_of_testBit_eq
  intro i
  rw [Nat.testBit_xor, hs, h, Nat.testBit_two_pow_mul_add _ h1, Nat.testBit_two_pow_mul_add _ h2,
    Nat.testBit_two_pow_sub_one, Nat.testBit_two_pow_sub_one, Nat.testBit_two_pow]
  by_cases hi : i < t + 1
  · rw [if_pos hi, if_pos hi]
    by_cases ht : i < t
    · simp [ht, hi, show ¬ t = i by omega]
    · simp [show t = i by omega]
  · rw [if_neg hi, if_neg hi]
    simp [hi]

/-! ## Clearing and filling the low bits of a bit vector -/

/-- Ones above the width of the vector are cut off. -/
theorem lowOnes_min (w n : ℕ) : lowOnes w (min n w) = lowOnes w n := by
  apply BitVec.eq_of_getLsbD_eq
  intro i hi
  rw [getLsbD_lowOnes, getLsbD_lowOnes]
  by_cases hn : i < n <;> simp [hi, hn]

theorem toNat_lowOnes (w n : ℕ) (h : n ≤ w) : (lowOnes w n).toNat = 2 ^ n - 1 := by
  have := Nat.two_pow_pos n
  have hle : 2 ^ n ≤ 2 ^ w := Nat.pow_le_pow_right (by omega) h
  rw [lowOnes, BitVec.toNat_setWidth, BitVec.toNat_allOnes, Nat.mod_eq_of_lt (by omega)]

/-- Clearing the lowest `n` bits rounds down to a multiple of `2 ^ n`. -/
theorem toNat_and_not_lowOnes {w : ℕ} (v : BitVec w) (n : ℕ) :
    (v &&& ~~~lowOnes w n).toNat = v.toNat / 2 ^ n * 2 ^ n := by
  apply Nat.eq_of_testBit_eq
  intro i
  rw [BitVec.testBit_toNat, Nat.testBit_mul_two_pow, Nat.testBit_div_two_pow,
    BitVec.getLsbD_and, BitVec.getLsbD_not, getLsbD_lowOnes]
  by_cases hw : i < w
  · by_cases hn : i < n
    · simp [hw, hn]
    · rw [show i - n + n = i by omega]
      simp [hw, hn, show n ≤ i by omega, BitVec.testBit_toNat]
  · by_cases hn : n ≤ i
    · rw [show i - n + n = i by omega]
      simp [hw, hn, BitVec.testBit_toNat, BitVec.getLsbD_of_ge v i (by omega)]
    · simp [hw, hn]

/-! ## The block of a bit vector -/

/-- The mask trick on a bit vector that is not all ones. -/
theorem xor_add_one_eq_lowOnes {w : ℕ} (v : BitVec w) (h : v.toNat + 1 < 2 ^ w) :
    v ^^^ (v + 1#w) = lowOnes w (trailingOnes v.toNat + 1) := by
  have hw : 0 < w := by
    rcases Nat.eq_zero_or_pos w with rfl | hw
    · simp at h
    · exact hw
  have hle : trailingOnes v.toNat + 1 ≤ w := by
    have hb := testBit_of_le_trailingOnes v.toNat
    by_contra hgt
    have hall : ∀ i < w, v.getLsbD i = true := by
      intro i hi
      rw [← BitVec.testBit_toNat, hb i (by omega)]
      simpa using (by omega : i < trailingOnes v.toNat)
    have hv : v = BitVec.allOnes w := by
      apply BitVec.eq_of_getLsbD_eq
      intro i hi
      rw [hall i hi, BitVec.getLsbD_allOnes]
      simp [hi]
    rw [hv, BitVec.toNat_allOnes] at h
    omega
  apply BitVec.eq_of_toNat_eq
  have h1 : (1#w).toNat = 1 := by
    rw [BitVec.toNat_ofNat, Nat.mod_eq_of_lt (Nat.one_lt_two_pow (by omega))]
  rw [BitVec.toNat_xor, BitVec.toNat_add, h1, Nat.mod_eq_of_lt h, xor_succ,
    toNat_lowOnes w _ hle]

/-- The trailing ones of a bit vector that is not all ones leave room for a zero. -/
theorem trailingOnes_lt {w : ℕ} (v : BitVec w) (h : v.toNat + 1 < 2 ^ w) :
    trailingOnes v.toNat < w := by
  have hb := eq_block_add v.toNat
  by_contra hge
  have h1 : 2 ^ w ≤ 2 ^ trailingOnes v.toNat := Nat.pow_le_pow_right (by omega) (by omega)
  omega

/-- The all-ones vector is the one on which the mask trick wraps around. -/
theorem xor_add_one_allOnes {w : ℕ} (v : BitVec w) (h : v.toNat + 1 = 2 ^ w) :
    v ^^^ (v + 1#w) = BitVec.allOnes w := by
  have hv : v = BitVec.allOnes w := by
    apply BitVec.eq_of_toNat_eq
    rw [BitVec.toNat_allOnes]
    omega
  have hz : v + 1#w = 0#w := by
    apply BitVec.eq_of_toNat_eq
    rcases Nat.eq_zero_or_pos w with rfl | hw
    · simpa using h
    · have h1 : (1#w).toNat = 1 := by
        rw [BitVec.toNat_ofNat, Nat.mod_eq_of_lt (Nat.one_lt_two_pow (by omega))]
      rw [BitVec.toNat_add, h1, h]
      simp
  rw [hz, BitVec.xor_zero, hv]

/-- The block of a number below `2 ^ w` ends at `2 ^ w` at the latest, unless the number is
all ones. -/
theorem block_end_le {w : ℕ} (v : BitVec w) (h : v.toNat + 1 < 2 ^ w) :
    2 ^ (trailingOnes v.toNat + 1) * (blockIndex v.toNat + 1) ≤ 2 ^ w := by
  have ht := trailingOnes_lt v h
  obtain ⟨k, hk⟩ := Nat.exists_eq_add_of_le (show trailingOnes v.toNat + 1 ≤ w by omega)
  have hlt : blockIndex v.toNat < 2 ^ k := by
    unfold blockIndex
    rw [Nat.div_lt_iff_lt_mul (Nat.two_pow_pos _), ← pow_add]
    have := v.isLt
    rwa [show k + (trailingOnes v.toNat + 1) = w by omega]
  rw [show 2 ^ w = 2 ^ (trailingOnes v.toNat + 1) * 2 ^ k by rw [← pow_add, ← hk]]
  exact Nat.mul_le_mul_left _ hlt

/-- The all-ones vector has `w` trailing ones and lies in the lowest block. -/
theorem trailingOnes_of_allOnes {w : ℕ} (v : BitVec w) (h : v.toNat + 1 = 2 ^ w) :
    trailingOnes v.toNat = w ∧ blockIndex v.toNat = 0 := by
  have ht : trailingOnes v.toNat = w := by
    unfold trailingOnes
    rw [h, padicValNat.prime_pow]
  refine ⟨ht, ?_⟩
  unfold blockIndex
  rw [ht, pow_succ]
  exact Nat.div_eq_of_lt (by omega)

/-- The lower end of the block, as the mask trick computes it. -/
theorem toNat_block_lo {w : ℕ} (v : BitVec w) :
    (v &&& ~~~(v ^^^ (v + 1#w))).toNat
      = 2 ^ (trailingOnes v.toNat + 1) * blockIndex v.toNat := by
  rcases Nat.lt_or_ge (v.toNat + 1) (2 ^ w) with h | h
  · rw [xor_add_one_eq_lowOnes v h, toNat_and_not_lowOnes, div_mul_eq_blockIndex]
  · have hall : v.toNat + 1 = 2 ^ w := by
      have := v.isLt
      omega
    rw [xor_add_one_allOnes v hall, (trailingOnes_of_allOnes v hall).2]
    simp

/-- The upper end of the block, as the mask trick computes it modulo `2 ^ w`. -/
theorem toNat_block_hi {w : ℕ} (v : BitVec w) :
    ((v &&& ~~~(v ^^^ (v + 1#w))) + ((v ^^^ (v + 1#w)) + 1#w)).toNat
      = 2 ^ (trailingOnes v.toNat + 1) * (blockIndex v.toNat + 1) % 2 ^ w := by
  rw [BitVec.toNat_add, BitVec.toNat_add, toNat_block_lo, Nat.add_mod_mod, BitVec.toNat_ofNat,
    ← Nat.add_assoc, Nat.add_mod_mod, mul_add, mul_one]
  rcases Nat.lt_or_ge (v.toNat + 1) (2 ^ w) with h | h
  · have hpos := Nat.two_pow_pos (trailingOnes v.toNat + 1)
    rw [xor_add_one_eq_lowOnes v h, toNat_lowOnes _ _ (trailingOnes_lt v h)]
    congr 1
    omega
  · have hall : v.toNat + 1 = 2 ^ w := by
      have := v.isLt
      omega
    obtain ⟨ht, hb⟩ := trailingOnes_of_allOnes v hall
    have hpos := Nat.two_pow_pos w
    rw [xor_add_one_allOnes v hall, ht, hb, BitVec.toNat_allOnes, mul_zero,
      show 0 + (2 ^ w - 1) + 1 = 2 ^ w by omega, Nat.zero_add, pow_succ, Nat.mul_mod_right,
      Nat.mod_self]

end Bits
