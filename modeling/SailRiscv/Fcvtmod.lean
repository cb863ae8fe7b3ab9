/-
# The conversion modulo the word

`fcvtmod.w.d` truncates a double and returns the integer modulo the word, with the flags of the
conversion that does not wrap.
-/
import SailRiscv.FpMinMax

namespace SailRiscv

open BinaryFloat

/-! ## Truncation -/

/-- The integer next to `q` towards zero. -/
def truncate (q : ℚ) : ℤ := if q < 0 then ⌈q⌉ else ⌊q⌋

/-- A sign applied to a number. -/
def withSign {α : Type} [Neg α] (s : BitVec 1) (x : α) : α := if s = 0b1#1 then -x else x

/-- The truncation of a fraction. -/
theorem truncate_withSign (s : BitVec 1) (a b : ℕ) :
    truncate (withSign s ((a : ℚ) / b)) = withSign s ((a / b : ℕ) : ℤ) := by
  have hfloor : ⌊(a : ℚ) / b⌋ = ((a / b : ℕ) : ℤ) := by
    rw [Rat.floor_natCast_div_natCast, Int.natCast_div]
  have hnonneg : (0 : ℚ) ≤ (a : ℚ) / b := by positivity
  unfold truncate withSign
  by_cases hs : s = 0b1#1
  · rw [if_pos hs, if_pos hs]
    by_cases hneg : -((a : ℚ) / b) < 0
    · rw [if_pos hneg, Int.ceil_neg, hfloor]
    · have hzero : (a : ℚ) / b = 0 := by linarith
      rw [hzero] at hfloor ⊢
      rw [if_neg (by norm_num), neg_zero, hfloor, ← hfloor]
      simp
  · rw [if_neg hs, if_neg hs, if_neg (not_lt.mpr hnonneg), hfloor]

/-- A fraction is an integer when nothing remains. -/
theorem div_eq_cast_iff {a b : ℕ} (hb : 0 < b) : (a : ℚ) / b = ((a / b : ℕ) : ℤ) ↔ a % b = 0 := by
  have hpos : (b : ℚ) ≠ 0 := by positivity
  rw [div_eq_iff hpos]
  push_cast
  norm_cast
  constructor
  · intro h
    have hdiv := Nat.div_add_mod a b
    rw [Nat.mul_comm] at hdiv
    omega
  · intro h
    exact (Nat.div_mul_cancel (Nat.dvd_of_mod_eq_zero h)).symm

/-! ## The law -/

/-- The rational value of a finite encoding. -/
def frational {f : FpFormat} (v : BitVec f.width) : ℚ := withSign (fsign v) (fmagnitude v)

/-- The integer that `fcvtmod.w.d` returns modulo the word, and the flags: invalid for an integer
that is none of 32 bits, inexact for a number that is no integer. -/
def fcvtmodLaw (x : BitVec 64) : Fflags × BitVec 32 :=
  if fexp (f := .D) x = BitVec.allOnes _ then (nvFlag, 0#32)
  else
    let q := frational (f := .D) x
    let n := truncate q
    (if n < -2 ^ 31 ∨ 2 ^ 31 - 1 < n then nvFlag else if q ≠ n then nxFlag else 0#5,
      BitVec.ofInt 32 n)

/-- The result for the magnitude `a / b`. -/
def fcvtmodOf (s : BitVec 1) (a b : ℕ) : Fflags × BitVec 32 :=
  (if (if s = 0b1#1 then 0x80000000 else 0x7fffffff) < a / b then nvFlag
    else if a % b ≠ 0 then nxFlag else 0#5,
    withSign s (BitVec.ofNat 32 (a / b)))

/-- The law in terms of natural numbers. -/
theorem fcvtmodLaw_eq {x : BitVec 64} (hfin : fexp (f := .D) x ≠ BitVec.allOnes _) {a b : ℕ}
    (hb : 0 < b) (hmag : fmagnitude (f := .D) x = (a : ℚ) / b) :
    fcvtmodLaw x = fcvtmodOf (fsign (f := .D) x) a b := by
  unfold fcvtmodLaw fcvtmodOf frational
  rw [if_neg hfin, hmag]
  generalize fsign (f := .D) x = s
  have hexact : withSign s ((a : ℚ) / b) = (withSign s ((a / b : ℕ) : ℤ) : ℤ) ↔ a % b = 0 := by
    rw [← div_eq_cast_iff hb]
    unfold withSign
    by_cases hs : s = 0b1#1
    · rw [if_pos hs, if_pos hs, Int.cast_neg, neg_inj]
    · rw [if_neg hs, if_neg hs]
  have hbits : BitVec.ofInt 32 (withSign s ((a / b : ℕ) : ℤ))
      = withSign s (BitVec.ofNat 32 (a / b)) := by
    unfold withSign
    by_cases hs : s = 0b1#1
    · rw [if_pos hs, if_pos hs, BitVec.ofInt_neg, BitVec.ofInt_natCast]
    · rw [if_neg hs, if_neg hs, BitVec.ofInt_natCast]
  have hrange : (withSign s ((a / b : ℕ) : ℤ) < -2 ^ 31 ∨ 2 ^ 31 - 1 < withSign s ((a / b : ℕ) : ℤ))
      ↔ (if s = 0b1#1 then 0x80000000 else 0x7fffffff) < a / b := by
    generalize a / b = n
    unfold withSign
    by_cases hs : s = 0b1#1
    · rw [if_pos hs, if_pos hs]
      omega
    · rw [if_neg hs, if_neg hs]
      omega
  show (if truncate (withSign s ((a : ℚ) / b)) < -2 ^ 31
      ∨ 2 ^ 31 - 1 < truncate (withSign s ((a : ℚ) / b)) then nvFlag
    else if withSign s ((a : ℚ) / b) ≠ truncate (withSign s ((a : ℚ) / b)) then nxFlag else 0#5,
      BitVec.ofInt 32 (truncate (withSign s ((a : ℚ) / b)))) = _
  rw [truncate_withSign, hbits]
  simp only [hrange, ne_eq, hexact]

/-- The magnitude of a double as a fraction; the exponent is a variable to keep the power from
being computed. -/
theorem fmagnitude_double (x : BitVec 64) {n : ℕ} (hn : n = 1074) :
    fmagnitude (f := .D) x
      = ((scaled 52 (fexp (f := .D) x).toNat (fmant (f := .D) x).toNat : ℕ) : ℚ)
        / ((2 ^ n : ℕ) : ℚ) := by
  unfold fmagnitude magnitude
  have hexp : (1 : ℤ) - (FpFormat.D.bias : ℤ) - (FpFormat.D.mantWidth : ℤ) = -(n : ℤ) := by
    rw [hn]
    decide
  rw [hexp, zpow_neg, zpow_natCast, div_eq_mul_inv, Nat.cast_pow, Nat.cast_ofNat]

/-- The result for a magnitude between zero and one. -/
theorem fcvtmodOf_small (s : BitVec 1) {a b : ℕ} (ha : 0 < a) (hab : a < b) :
    fcvtmodOf s a b = (nxFlag, 0#32) := by
  unfold fcvtmodOf withSign
  rw [Nat.div_eq_of_lt hab, Nat.mod_eq_of_lt hab, if_neg (Nat.not_lt_zero _), if_pos (by omega)]
  by_cases hs : s = 0b1#1
  · rw [if_pos hs]
    rfl
  · rw [if_neg hs]

/-- The result for a multiple of the modulus. -/
theorem fcvtmodOf_large (s : BitVec 1) {k : ℕ} (hk : 0 < k) :
    fcvtmodOf s (k * 2 ^ 32) 1 = (nvFlag, 0#32) := by
  have hzero : BitVec.ofNat 32 (k * 2 ^ 32) = 0#32 := by
    apply BitVec.eq_of_toNat_eq
    rw [BitVec.toNat_ofNat, Nat.mul_mod_left]
    rfl
  have hrange : (if s = 0b1#1 then 0x80000000 else 0x7fffffff) < k * 2 ^ 32 := by
    by_cases hs : s = 0b1#1
    · rw [if_pos hs]
      omega
    · rw [if_neg hs]
      omega
  unfold fcvtmodOf withSign
  rw [Nat.div_one, if_pos hrange, hzero]
  by_cases hs : s = 0b1#1
  · rw [if_pos hs]
    rfl
  · rw [if_neg hs]

/-- The magnitude of a normal double whose exponent is `1023 + k`. -/
theorem fmagnitude_normal {x : BitVec 64} {k : ℕ} (hk : (fexp (f := .D) x).toNat = 1023 + k) :
    fmagnitude (f := .D) x
      = (((2 ^ 52 + (fmant (f := .D) x).toNat) * 2 ^ k : ℕ) : ℚ) / ((2 ^ 52 : ℕ) : ℚ) := by
  obtain ⟨n, hn⟩ : ∃ n, n = 1022 := ⟨_, rfl⟩
  rw [fmagnitude_double x (show 52 + n = 1074 by omega), hk, scaled_of_ne (by omega),
    show 1023 + k - 1 = k + n by omega, pow_add _ k, pow_add _ 52, ← Nat.mul_assoc,
    Nat.cast_mul _ (2 ^ n), Nat.cast_mul _ (2 ^ n), mul_div_mul_right _ _ (by positivity)]

/-- The significand in the window of 84 bits. -/
def window (mant : BitVec 52) (k : ℕ) : BitVec 84 := (0b1#1 ++ mant).setWidth 84 <<< k

/-- The number in the window. -/
theorem toNat_window (mant : BitVec 52) (k : ℕ) :
    (window mant k).toNat = (2 ^ 52 + mant.toNat) * 2 ^ k % 2 ^ 84 := by
  have hmant := mant.isLt
  have hone : (0b1#1 ++ mant).toNat = 2 ^ 52 + mant.toNat := by
    rw [BitVec.toNat_append, ← Nat.shiftLeft_add_eq_or_of_lt hmant]
    rfl
  unfold window
  rw [BitVec.toNat_shiftLeft, BitVec.toNat_setWidth, hone, Nat.shiftLeft_eq,
    Nat.mod_eq_of_lt (show 2 ^ 52 + mant.toNat < 2 ^ 84 by omega)]

/-- The integer part of the window. -/
theorem window_integer (mant : BitVec 52) (k : ℕ) :
    (window mant k).extractLsb' 52 32
      = BitVec.ofNat 32 ((2 ^ 52 + mant.toNat) * 2 ^ k / 2 ^ 52) := by
  apply BitVec.eq_of_toNat_eq
  rw [BitVec.extractLsb'_toNat, toNat_window, BitVec.toNat_ofNat, Nat.shiftRight_eq_div_pow]
  omega

/-- The fractional part of the window. -/
theorem window_fractional (mant : BitVec 52) (k : ℕ) :
    (window mant k).extractLsb' 0 52 = 0#52 ↔ (2 ^ 52 + mant.toNat) * 2 ^ k % 2 ^ 52 = 0 := by
  rw [← BitVec.toNat_inj, BitVec.extractLsb'_toNat, toNat_window, BitVec.toNat_zero,
    Nat.shiftRight_zero]
  omega

/-- The flags and the result as the code computes them in the window. -/
theorem fcvtmodOf_window (s : BitVec 1) (mant : BitVec 52) (k : ℕ) :
    (if (k : ℤ) > 31 then nvFlag
      else if ((window mant k).extractLsb' 52 32).toNat
        > (if s = 0b1#1 then 0x80000000 else 0x7fffffff) then nvFlag
      else if (window mant k).extractLsb' 0 52 != 0#52 then nxFlag
      else 0#5,
      if s = 0b1#1 then ~~~(window mant k).extractLsb' 52 32 + 1#32
        else (window mant k).extractLsb' 52 32)
      = fcvtmodOf s ((2 ^ 52 + mant.toNat) * 2 ^ k) (2 ^ 52) := by
  have hmant := mant.isLt
  unfold fcvtmodOf withSign
  rw [window_integer, BitVec.neg_eq_not_add]
  congr 1
  have hfrac : ((window mant k).extractLsb' 0 52 != 0#52) = true
      ↔ (2 ^ 52 + mant.toNat) * 2 ^ k % 2 ^ 52 ≠ 0 := by
    rw [bne_iff_ne, ne_eq, window_fractional]
  generalize hlimit : (if s = 0b1#1 then 0x80000000 else 0x7fffffff) = limit
  have hlimit32 : limit < 2 ^ 32 := by
    subst hlimit
    by_cases hs : s = 0b1#1
    · rw [if_pos hs]
      omega
    · rw [if_neg hs]
      omega
  by_cases hlarge : (k : ℤ) > 31
  · have hge : 2 ^ 32 ≤ (2 ^ 52 + mant.toNat) * 2 ^ k / 2 ^ 52 := by
      rw [Nat.le_div_iff_mul_le (by positivity), Nat.mul_comm]
      exact Nat.mul_le_mul (by omega) (Nat.pow_le_pow_right (by decide) (by omega))
    rw [if_pos hlarge, if_pos (by omega)]
  · have hlt : (2 ^ 52 + mant.toNat) * 2 ^ k / 2 ^ 52 < 2 ^ 32 := by
      rw [Nat.div_lt_iff_lt_mul (by positivity)]
      calc (2 ^ 52 + mant.toNat) * 2 ^ k < 2 ^ 53 * 2 ^ k :=
            Nat.mul_lt_mul_of_pos_right (by omega) (by positivity)
        _ ≤ 2 ^ 53 * 2 ^ 31 :=
            Nat.mul_le_mul_left _ (Nat.pow_le_pow_right (by decide) (by omega))
        _ = 2 ^ 32 * 2 ^ 52 := by rfl
    rw [if_neg hlarge, BitVec.toNat_ofNat, Nat.mod_eq_of_lt hlt]
    simp only [gt_iff_lt, hfrac]

/-- The result for zero. -/
theorem fcvtmodOf_zero (s : BitVec 1) : fcvtmodOf s 0 1 = (0#5, 0#32) := by
  revert s
  decide

/-- **`fcvtmod_helper` obeys the law.** -/
theorem fcvtmodHelper_eq (x : BitVec 64) : fcvtmodHelper x = fcvtmodLaw x := by
  have hmant := (fmant (f := .D) x).isLt
  obtain ⟨n, hn⟩ : ∃ n, n = 1074 := ⟨_, rfl⟩
  have hdouble := fmagnitude_double x hn
  unfold fcvtmodHelper
  by_cases hzero : fexp (f := .D) x = 0#_
  · have hfin : fexp (f := .D) x ≠ BitVec.allOnes _ := by
      rw [hzero]
      decide
    rw [hzero, BitVec.toNat_zero, scaled_zero] at hdouble
    by_cases hm : fmant (f := .D) x = 0#_
    · have hmag : fmagnitude (f := .D) x = ((0 : ℕ) : ℚ) / ((1 : ℕ) : ℚ) := by
        rw [hdouble, hm, BitVec.toNat_zero, Nat.cast_zero, zero_div, zero_div]
      rw [fcvtmodLaw_eq hfin (by decide) hmag, fcvtmodOf_zero]
      simp [hzero, hm]
    · have hpos : 0 < (fmant (f := .D) x).toNat := by
        have hne : (fmant (f := .D) x).toNat ≠ 0 := fun h => hm (BitVec.eq_of_toNat_eq h)
        omega
      have hlt : (fmant (f := .D) x).toNat < 2 ^ n :=
        hmant.trans_le (Nat.pow_le_pow_right (by decide) (show 52 ≤ n by omega))
      rw [fcvtmodLaw_eq hfin (by positivity) hdouble, fcvtmodOf_small _ hpos hlt]
      simp [hzero, hm]
  by_cases hinf : fexp (f := .D) x = BitVec.allOnes _
  · unfold fcvtmodLaw
    rw [if_pos hinf]
    simp [hinf]
  have hpos : 0 < (fexp (f := .D) x).toNat := by
    have hne : (fexp (f := .D) x).toNat ≠ 0 := fun h => hzero (BitVec.eq_of_toNat_eq h)
    omega
  rw [if_neg (by simp [hzero]), if_neg (by simp [hzero]), if_neg (by simp [hinf])]
  by_cases hlarge : ((fexp (f := .D) x).toNat : ℤ) - 1023 ≥ 84
  · obtain ⟨k, hk⟩ : ∃ k, (fexp (f := .D) x).toNat = 1023 + (k + 84) :=
      ⟨(fexp (f := .D) x).toNat - 1107, by omega⟩
    have hmag : fmagnitude (f := .D) x
        = (((2 ^ 52 + (fmant (f := .D) x).toNat) * 2 ^ k * 2 ^ 32 : ℕ) : ℚ) / ((1 : ℕ) : ℚ) := by
      have hsplit : (2 : ℕ) ^ (k + 84) = 2 ^ k * 2 ^ 32 * 2 ^ 52 := by
        rw [← pow_add, ← pow_add]
      rw [fmagnitude_normal hk, hsplit, ← Nat.mul_assoc, ← Nat.mul_assoc,
        Nat.cast_mul _ (2 ^ 52), mul_div_assoc, div_self (by positivity), mul_one, Nat.cast_one,
        div_one]
    rw [if_pos hlarge, fcvtmodLaw_eq hinf (by decide) hmag, fcvtmodOf_large _ (by positivity)]
  by_cases hsmall : ((fexp (f := .D) x).toNat : ℤ) - 1023 < 0
  · have hlt : scaled 52 (fexp (f := .D) x).toNat (fmant (f := .D) x).toNat < 2 ^ n := by
      calc scaled 52 (fexp (f := .D) x).toNat (fmant (f := .D) x).toNat
          < 2 ^ 52 * 2 ^ (fexp (f := .D) x).toNat := scaled_lt_next hmant
        _ = 2 ^ (52 + (fexp (f := .D) x).toNat) := (pow_add _ _ _).symm
        _ ≤ 2 ^ n := Nat.pow_le_pow_right (by decide) (by omega)
    have hone : 0 < scaled 52 (fexp (f := .D) x).toNat (fmant (f := .D) x).toNat := by
      rw [scaled_of_ne (by omega)]
      positivity
    rw [if_neg hlarge, if_pos hsmall, fcvtmodLaw_eq hinf (by positivity) hdouble,
      fcvtmodOf_small _ hone hlt]
  · obtain ⟨k, hk⟩ : ∃ k, (fexp (f := .D) x).toNat = 1023 + k :=
      ⟨(fexp (f := .D) x).toNat - 1023, by omega⟩
    have hexp : ((fexp (f := .D) x).toNat : ℤ) - 1023 = (k : ℤ) := by omega
    rw [if_neg hlarge, if_neg hsmall, fcvtmodLaw_eq hinf (by positivity) (fmagnitude_normal hk),
      hexp, Int.toNat_natCast]
    exact fcvtmodOf_window (fsign (f := .D) x) (fmant (f := .D) x) k

end SailRiscv
