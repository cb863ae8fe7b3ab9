/-
# Estimates with seven bits

`rsqrt7` and `recip7` normalize their operand, look a fraction of seven bits up in a table, and
assemble the result from it and a new exponent. The tables are checked line by line, at the two ends
of the interval of fractions that a line stands for; the exponents cancel (`estimates_accurate`).
-/
import SailRiscv.Fcvtmod
import SailRiscv.FixedPoint

namespace SailRiscv

open Bits BinaryFloat

section

variable {f : FpFormat}

/-! ## The formats -/

theorem FpFormat.mantWidth_bounds (f : FpFormat) : 10 ≤ f.mantWidth ∧ f.mantWidth ≤ 52 := by
  rcases f with _ | _ | _
  all_goals decide

/-- The bias, the width of the exponent, and that of the fraction. -/
theorem FpFormat.bias_spec (f : FpFormat) : f.bias = 2 ^ (f.expWidth - 1) - 1
    ∧ 2 ^ f.expWidth = 2 * f.bias + 2 ∧ f.bias % 2 = 1 ∧ f.mantWidth + 4 < f.bias
    ∧ f.bias < 1024 := by
  rcases f with _ | _ | _
  all_goals decide

theorem FpFormat.width_eq (f : FpFormat) : f.width = 1 + f.expWidth + f.mantWidth := by
  rcases f with _ | _ | _
  all_goals rfl

/-! ## The fields of what is assembled -/

section Fields

variable (sign : BitVec 1) (exp : BitVec f.expWidth) (mant : BitVec f.mantWidth)

theorem fsign_fmake : fsign (fmake sign exp mant) = sign := by
  have hw := f.width_eq
  apply BitVec.eq_of_getLsbD_eq
  intro i hi
  obtain rfl : i = 0 := by omega
  unfold fsign fmake
  rw [BitVec.getLsbD_extractLsb', BitVec.getLsbD_setWidth, BitVec.getLsbD_append,
    BitVec.getLsbD_append, if_neg (by omega), if_neg (by omega), decide_eq_true (by omega),
    decide_eq_true (by omega), Bool.true_and, Bool.true_and]
  congr 1
  omega

theorem fexp_fmake : fexp (fmake sign exp mant) = exp := by
  have hw := f.width_eq
  apply BitVec.eq_of_getLsbD_eq
  intro i hi
  unfold fexp fmake
  rw [BitVec.getLsbD_extractLsb', BitVec.getLsbD_setWidth, BitVec.getLsbD_append,
    BitVec.getLsbD_append, if_neg (by omega), if_pos (by omega), decide_eq_true (by omega),
    decide_eq_true (by omega), Bool.true_and, Bool.true_and]
  congr 1
  omega

theorem fmant_fmake : fmant (fmake sign exp mant) = mant := by
  have hw := f.width_eq
  apply BitVec.eq_of_getLsbD_eq
  intro i hi
  unfold fmant fmake
  rw [BitVec.getLsbD_extractLsb', BitVec.getLsbD_setWidth, BitVec.getLsbD_append,
    if_pos (by omega), decide_eq_true (by omega), decide_eq_true (by omega), Bool.true_and,
    Bool.true_and]
  congr 1
  omega

end Fields

/-! ## Normalization -/

/-- The loop of `count_leadingzeros` has found no bit, or the highest one. -/
theorem countLoop_cases {n : ℕ} (sig : BitVec n) (k : ℕ) :
    (forUp k n (fun i acc => if sig.getLsbD i then n - i - 1 else acc) = n
        ∧ ∀ i < k, sig.getLsbD i = false)
      ∨ ∃ j < k, forUp k n (fun i acc => if sig.getLsbD i then n - i - 1 else acc) = n - j - 1
        ∧ sig.getLsbD j = true ∧ ∀ i < k, j < i → sig.getLsbD i = false := by
  induction k with
  | zero => exact Or.inl ⟨rfl, fun i hi => absurd hi (Nat.not_lt_zero i)⟩
  | succ k ih =>
      have hstep : forUp (k + 1) n (fun i acc => if sig.getLsbD i then n - i - 1 else acc)
          = if sig.getLsbD k then n - k - 1
            else forUp k n (fun i acc => if sig.getLsbD i then n - i - 1 else acc) := rfl
      rw [hstep]
      rcases hbit : sig.getLsbD k with _ | _
      · rw [if_neg Bool.false_ne_true]
        rcases ih with ⟨hnone, hclear⟩ | ⟨j, hj, hfound, hset, hclear⟩
        · refine Or.inl ⟨hnone, fun i hi => ?_⟩
          rcases Nat.lt_succ_iff_lt_or_eq.mp hi with hlt | rfl
          · exact hclear i hlt
          · exact hbit
        · refine Or.inr ⟨j, by omega, hfound, hset, fun i hi hji => ?_⟩
          rcases Nat.lt_succ_iff_lt_or_eq.mp hi with hlt | rfl
          · exact hclear i hlt hji
          · exact hbit
      · exact Or.inr ⟨k, by omega, if_pos rfl, hbit, fun i hi hki => by omega⟩

/-- The position of the leading bit. -/
theorem countLeadingzeros_spec {n : ℕ} {sig : BitVec n} (hne : sig.toNat ≠ 0) :
    ∃ j < n, countLeadingzeros sig = n - j - 1 ∧ 2 ^ j ≤ sig.toNat ∧ sig.toNat < 2 ^ (j + 1) := by
  rcases countLoop_cases sig n with ⟨-, hclear⟩ | ⟨j, hj, hfound, hset, hclear⟩
  · refine absurd ?_ hne
    have hzero : sig = 0#n := by
      apply BitVec.eq_of_getLsbD_eq
      intro i hi
      rw [hclear i hi, BitVec.getLsbD_zero]
    rw [hzero]
    rfl
  · refine ⟨j, hj, hfound, Nat.ge_two_pow_of_testBit hset, Nat.lt_pow_two_of_testBit _ ?_⟩
    intro i hi
    rcases Nat.lt_or_ge i n with hlt | hge
    · exact hclear i hlt (by omega)
    · exact BitVec.getLsbD_of_ge sig i hge

/-- The magnitude is `(1 + g / 2 ^ m) * 2 ^ (k - b)`, for the fraction `g` of `m` bits and the
exponent `k`. -/
structure Normalized (v : BitVec f.width) (k : ℤ) (g : ℕ) : Prop where
  lt : g < 2 ^ f.mantWidth
  value : fmagnitude v = (2 ^ f.mantWidth + g : ℕ) * 2 ^ (k - f.bias - f.mantWidth)
  gt : -(f.mantWidth : ℤ) < k
  le : k ≤ 2 * f.bias

/-- The normalized operand, for a normal number. -/
theorem normalized_normal {v : BitVec f.width} (hfin : fexp v ≠ BitVec.allOnes _)
    (hexp : fexp v ≠ 0#_) : (normalizedExp v false).toInt = (fexp v).toNat
      ∧ Normalized v (fexp v).toNat (normalizedSig v false).toNat := by
  obtain ⟨-, hpow, -, -, hbias⟩ := f.bias_spec
  have hlt := (fexp v).isLt
  have hne : (fexp v).toNat ≠ 0 := fun h => hexp (BitVec.eq_of_toNat_eq h)
  have hmax := fexp_lt hfin
  rw [BitVec.toNat_allOnes] at hmax
  refine ⟨?_, (fmant v).isLt, ?_, by omega, by omega⟩
  · show ((fexp v).setWidth 64).toInt = _
    rw [BitVec.toInt_eq_toNat_of_lt, BitVec.toNat_setWidth]
    · rw [Nat.mod_eq_of_lt (by omega)]
    · rw [BitVec.toNat_setWidth, Nat.mod_eq_of_lt (by omega)]
      omega
  · unfold fmagnitude magnitude
    rw [scaled_of_ne hne, Nat.cast_mul, mul_assoc, Nat.cast_pow, Nat.cast_ofNat, ← zpow_natCast,
      ← zpow_add₀ two_ne_zero]
    congr 2
    omega

/-- The normalized operand, for a subnormal number. -/
theorem normalized_subnormal {v : BitVec f.width} (hexp : fexp v = 0#_)
    (hmant : (fmant v).toNat ≠ 0) :
    (normalizedExp v true).toInt = -(countLeadingzeros (fmant v) : ℤ)
      ∧ countLeadingzeros (fmant v) < f.mantWidth
      ∧ Normalized v (-(countLeadingzeros (fmant v) : ℤ)) (normalizedSig v true).toNat := by
  obtain ⟨j, hj, hcount, hlo, hhi⟩ := countLeadingzeros_spec hmant
  obtain ⟨-, hwidth⟩ := f.mantWidth_bounds
  have hshift : 1 + countLeadingzeros (fmant v) = f.mantWidth - j := by omega
  have hsplit : 2 ^ f.mantWidth = 2 ^ j * 2 ^ (f.mantWidth - j) := by
    rw [← pow_add]
    congr 1
    omega
  have hsplit' : 2 * 2 ^ f.mantWidth = 2 ^ (j + 1) * 2 ^ (f.mantWidth - j) := by
    rw [hsplit, pow_succ]
    ring
  have hge : 2 ^ f.mantWidth ≤ (fmant v).toNat * 2 ^ (f.mantWidth - j) := by
    rw [hsplit]
    exact Nat.mul_le_mul_right _ hlo
  have hlt : (fmant v).toNat * 2 ^ (f.mantWidth - j) < 2 * 2 ^ f.mantWidth := by
    rw [hsplit']
    exact Nat.mul_lt_mul_of_pos_right hhi (Nat.two_pow_pos _)
  have hsig : 2 ^ f.mantWidth + (normalizedSig v true).toNat
      = (fmant v).toNat * 2 ^ (f.mantWidth - j) := by
    show _ + (fmant v <<< (1 + countLeadingzeros (fmant v))).toNat = _
    rw [BitVec.toNat_shiftLeft, Nat.shiftLeft_eq, hshift, Nat.mod_eq_sub_mod hge,
      Nat.mod_eq_of_lt (by omega)]
    omega
  refine ⟨?_, by omega, (normalizedSig v true).isLt, ?_, by omega, by omega⟩
  · show (BitVec.ofInt 64 (0 - (countLeadingzeros (fmant v) : ℤ))).toInt = _
    rw [BitVec.toInt_ofInt_eq_self (by omega) (by omega) (by omega), zero_sub]
  · unfold fmagnitude magnitude
    rw [hsig, hexp, BitVec.toNat_ofNat, Nat.zero_mod, scaled_zero, Nat.cast_mul, Nat.cast_pow,
      Nat.cast_ofNat, mul_assoc, ← zpow_natCast, ← zpow_add₀ two_ne_zero]
    congr 2
    omega

/-- The operand of an estimate, normalized. -/
theorem normalized_spec {v : BitVec f.width} {sub : Bool} (hfin : fexp v ≠ BitVec.allOnes _)
    (hne : fmagnitude v ≠ 0) (hsub : sub = true ↔ fexp v = 0#_) :
    Normalized v (normalizedExp v sub).toInt (normalizedSig v sub).toNat := by
  rcases sub with _ | _
  · obtain ⟨hk, hnorm⟩ := normalized_normal hfin fun h => Bool.false_ne_true (hsub.mpr h)
    rwa [hk]
  · have hexp := hsub.mp rfl
    have hmant : (fmant v).toNat ≠ 0 := fun h => hne (magnitude_eq_zero.mpr ⟨by rw [hexp]; simp, h⟩)
    obtain ⟨hk, -, hnorm⟩ := normalized_subnormal hexp hmant
    rwa [hk]

/-! ## The lines of the tables -/

/-- A table line `i`, that is right at both ends of its interval, is right within it. -/
theorem line_bounds {A B c n i u G : ℕ} (hlo : A < c * (n + i)) (hhi : c * (n + i + 1) < B)
    (hu : 0 < u) (hGlo : (n + i) * u ≤ G) (hGhi : G < (n + i + 1) * u) :
    A * u < c * G ∧ c * G < B * u := by
  constructor
  · calc A * u < c * (n + i) * u := Nat.mul_lt_mul_of_pos_right hlo hu
      _ = c * ((n + i) * u) := Nat.mul_assoc _ _ _
      _ ≤ c * G := Nat.mul_le_mul_left c hGlo
  · calc c * G ≤ c * ((n + i + 1) * u) := Nat.mul_le_mul_left c hGhi.le
      _ = c * (n + i + 1) * u := (Nat.mul_assoc _ _ _).symm
      _ < B * u := Nat.mul_lt_mul_of_pos_right hhi hu

/-- The line of a fraction of `m` bits in a table for fractions of `w` bits. -/
theorem fraction_line {m w g : ℕ} (hw : w ≤ m) :
    (2 ^ w + g / 2 ^ (m - w)) * 2 ^ (m - w) ≤ 2 ^ m + g
      ∧ 2 ^ m + g < (2 ^ w + g / 2 ^ (m - w) + 1) * 2 ^ (m - w) := by
  have hsplit : 2 ^ w * 2 ^ (m - w) = 2 ^ m := by rw [← pow_add, Nat.add_sub_cancel' hw]
  have hdiv := Nat.div_add_mod g (2 ^ (m - w))
  have hmod := Nat.mod_lt g (Nat.two_pow_pos (m - w))
  rw [Nat.mul_comm] at hdiv
  rw [Nat.add_mul, Nat.add_mul _ 1, Nat.add_mul, hsplit]
  omega

/-- The lines of the table of `rsqrt7`: for the square root of a fraction in `[1, 2)`, where `p` is
one, or in `[2, 4)`. -/
theorem rsqrt7Table_lines : ∀ p < 2, ∀ i < 64, rsqrt7Table.getD (64 * p + i) 0 < 128
    ∧ 127 ^ 2 * 2 ^ (7 + p) < (128 + rsqrt7Table.getD (64 * p + i) 0) ^ 2 * (2 ^ 6 + i)
    ∧ (128 + rsqrt7Table.getD (64 * p + i) 0) ^ 2 * (2 ^ 6 + i + 1) < 129 ^ 2 * 2 ^ (7 + p) := by
  decide

/-- The lines of the table of `recip7`. -/
theorem recip7Table_lines : ∀ i < 128, recip7Table.getD i 0 < 128
    ∧ 127 * 2 ^ 8 < (128 + recip7Table.getD i 0) * (2 ^ 7 + i)
    ∧ (128 + recip7Table.getD i 0) * (2 ^ 7 + i + 1) < 129 * 2 ^ 8 := by
  decide

/-! ## What is assembled -/

/-- A fraction of seven bits. -/
theorem toNat_sevenBits {t : ℕ} (ht : t < 128) (s : ℕ) (hs : s ≤ f.mantWidth - 7) :
    (BitVec.ofNat f.mantWidth t <<< s).toNat = t * 2 ^ s := by
  obtain ⟨hm, -⟩ := f.mantWidth_bounds
  have hlt : t * 2 ^ s < 2 ^ f.mantWidth := by
    calc t * 2 ^ s < 2 ^ 7 * 2 ^ s := Nat.mul_lt_mul_of_pos_right ht (Nat.two_pow_pos s)
      _ = 2 ^ (7 + s) := (pow_add _ _ _).symm
      _ ≤ 2 ^ f.mantWidth := Nat.pow_le_pow_right Nat.two_pos (by omega)
  have hle : t < 2 ^ f.mantWidth := lt_of_le_of_lt (Nat.le_mul_of_pos_right t (Nat.two_pow_pos s)) hlt
  rw [BitVec.toNat_shiftLeft, BitVec.toNat_ofNat, Nat.shiftLeft_eq, Nat.mod_eq_of_lt hle,
    Nat.mod_eq_of_lt hlt]

/-- The magnitude of a normal result. -/
theorem fmagnitude_estimate {t : ℕ} (ht : t < 128) (sign : BitVec 1) {exp : BitVec f.expWidth}
    (hexp : exp.toNat ≠ 0) :
    fmagnitude (fmake sign exp (BitVec.ofNat f.mantWidth t <<< (f.mantWidth - 7)))
      = (128 + t : ℕ) * 2 ^ ((exp.toNat : ℤ) - f.bias - 7) := by
  obtain ⟨hm, -⟩ := f.mantWidth_bounds
  have hsplit : 2 ^ f.mantWidth = 128 * 2 ^ (f.mantWidth - 7) := by
    rw [show 128 = 2 ^ 7 from rfl, ← pow_add]
    congr 1
    omega
  unfold fmagnitude magnitude
  rw [fexp_fmake, fmant_fmake, toNat_sevenBits ht _ le_rfl, scaled_of_ne hexp, hsplit, ← Nat.add_mul,
    Nat.mul_assoc, ← pow_add, Nat.cast_mul, mul_assoc, Nat.cast_pow, Nat.cast_ofNat, ← zpow_natCast,
    ← zpow_add₀ two_ne_zero]
  congr 2
  omega

/-- The magnitude of a subnormal result. -/
theorem fmagnitude_estimate_subnormal {t : ℕ} (ht : t < 128) (sign : BitVec 1) {d : ℕ}
    (hd : 0 < d ∧ d ≤ 2) :
    fmagnitude (fmake sign 0#_ ((BitVec.ofNat f.mantWidth t <<< (f.mantWidth - 7)) >>> d
        ||| BitVec.ofNat f.mantWidth (2 ^ (f.mantWidth - d))))
      = (128 + t : ℕ) * 2 ^ ((1 : ℤ) - d - f.bias - 7) := by
  obtain ⟨hm, -⟩ := f.mantWidth_bounds
  have hsplit : 2 ^ (f.mantWidth - d) = 128 * 2 ^ (f.mantWidth - 7 - d) := by
    rw [show 128 = 2 ^ 7 from rfl, ← pow_add]
    congr 1
    omega
  have hshift : (t * 2 ^ (f.mantWidth - 7)) >>> d = t * 2 ^ (f.mantWidth - 7 - d) := by
    have hpow : 2 ^ (f.mantWidth - 7) = 2 ^ (f.mantWidth - 7 - d) * 2 ^ d := by
      rw [← pow_add]
      congr 1
      omega
    rw [Nat.shiftRight_eq_div_pow, hpow, ← Nat.mul_assoc,
      Nat.mul_div_cancel _ (Nat.two_pow_pos d)]
  have hlt : t * 2 ^ (f.mantWidth - 7 - d) < 2 ^ (f.mantWidth - d) := by
    rw [hsplit]
    exact Nat.mul_lt_mul_of_pos_right ht (Nat.two_pow_pos _)
  have hpow : 2 ^ (f.mantWidth - d) < 2 ^ f.mantWidth :=
    Nat.pow_lt_pow_right (by omega) (by omega)
  have hsig : ((BitVec.ofNat f.mantWidth t <<< (f.mantWidth - 7)) >>> d
      ||| BitVec.ofNat f.mantWidth (2 ^ (f.mantWidth - d))).toNat
      = (128 + t) * 2 ^ (f.mantWidth - 7 - d) := by
    have hor := Nat.two_pow_add_eq_or_of_lt hlt 1
    rw [Nat.mul_one] at hor
    rw [BitVec.toNat_or, BitVec.toNat_ushiftRight, toNat_sevenBits ht _ le_rfl, hshift,
      BitVec.toNat_ofNat, Nat.mod_eq_of_lt hpow, Nat.or_comm, ← hor, hsplit, Nat.add_mul]
  unfold fmagnitude magnitude
  rw [fexp_fmake, fmant_fmake, hsig, BitVec.toNat_ofNat, Nat.zero_mod, scaled_zero, Nat.cast_mul,
    Nat.cast_pow, Nat.cast_ofNat, mul_assoc, ← zpow_natCast, ← zpow_add₀ two_ne_zero]
  congr 2
  omega

/-! ## The reciprocal of the square root -/

/-- The line of the table of `rsqrt7`. -/
theorem rsqrt7_index (e : BitVec 64) (g : BitVec f.mantWidth) :
    (bits e 0 1 ++ bits g (f.mantWidth - 6) 6).toNat
      = 64 * (e.toInt % 2).toNat + g.toNat / 2 ^ (f.mantWidth - 6) := by
  obtain ⟨hm, -⟩ := f.mantWidth_bounds
  have hg : g.toNat / 2 ^ (f.mantWidth - 6) < 2 ^ 6 := by
    rw [Nat.div_lt_iff_lt_mul (Nat.two_pow_pos _), ← pow_add]
    calc g.toNat < 2 ^ f.mantWidth := g.isLt
      _ = 2 ^ (6 + (f.mantWidth - 6)) := by
          congr 1
          omega
  have hparity : e.toNat % 2 = (e.toInt % 2).toNat := by
    rw [BitVec.toInt_eq_toNat_cond]
    split
    · omega
    · omega
  unfold bits
  rw [BitVec.toNat_append, BitVec.extractLsb'_toNat, BitVec.extractLsb'_toNat,
    Nat.shiftRight_eq_div_pow, Nat.shiftRight_eq_div_pow, Nat.mod_eq_of_lt hg,
    ← Nat.shiftLeft_add_eq_or_of_lt hg, Nat.shiftLeft_eq, pow_zero, Nat.div_one, pow_one, hparity]
  omega

/-- An exponent that is in range. -/
theorem toNat_exponent {x : ℤ} (hlo : 0 ≤ x) (hhi : x < 2 ^ f.expWidth) :
    ((BitVec.ofInt f.expWidth x).toNat : ℤ) = x := by
  rw [toNat_ofInt_eq]
  exact Int.emod_eq_of_lt hlo hhi

/-- Bounds of a significand, as bounds of the value. -/
theorem value_bounds {A B N n w : ℕ} {z : ℤ} (hz : (n : ℤ) + z = -w) (hlo : A * 2 ^ n < N)
    (hhi : N < B * 2 ^ n) :
    (A : ℚ) * (1 / 2 ^ w) < (N : ℚ) * 2 ^ z ∧ (N : ℚ) * 2 ^ z < (B : ℚ) * (1 / 2 ^ w) := by
  have hunit : (2 : ℚ) ^ n * 2 ^ z = 1 / 2 ^ w := by
    rw [← zpow_natCast, ← zpow_add₀ two_ne_zero, hz, zpow_neg, zpow_natCast, one_div]
  have hpos : (0 : ℚ) < 2 ^ z := by positivity
  have hlo' : (A : ℚ) * 2 ^ n < N := by exact_mod_cast hlo
  have hhi' : (N : ℚ) < B * 2 ^ n := by exact_mod_cast hhi
  rw [← hunit, ← mul_assoc, ← mul_assoc]
  exact ⟨mul_lt_mul_of_pos_right hlo' hpos, mul_lt_mul_of_pos_right hhi' hpos⟩

/-- **The estimate of the reciprocal of the square root.** -/
theorem rsqrt7_accurate {v : BitVec f.width} {sub : Bool}
    (h : Normalized v (normalizedExp v sub).toInt (normalizedSig v sub).toNat) :
    fsign (rsqrt7 v sub) = fsign v ∧ fexp (rsqrt7 v sub) ≠ BitVec.allOnes _
      ∧ (1 - 1 / 2 ^ 7) ^ 2 < fmagnitude (rsqrt7 v sub) ^ 2 * fmagnitude v
      ∧ fmagnitude (rsqrt7 v sub) ^ 2 * fmagnitude v < (1 + 1 / 2 ^ 7) ^ 2 := by
  obtain ⟨hm, -⟩ := f.mantWidth_bounds
  obtain ⟨hbias, hpow, hodd, hwide, -⟩ := f.bias_spec
  obtain ⟨hlt, hvalue, hgt, hle⟩ := h
  have hone := Nat.two_pow_pos (f.expWidth - 1)
  have hpow' : (2 : ℤ) ^ f.expWidth = 2 * f.bias + 2 := by exact_mod_cast hpow
  have hbias' : (2 : ℤ) ^ (f.expWidth - 1) - 1 = f.bias := by
    rw [hbias, Nat.cast_sub hone]
    push_cast
    rfl
  have hdiv : f.mantWidth ≥ 6 := by omega
  generalize hk : (normalizedExp v sub).toInt = k at hvalue hgt hle
  generalize hg : (normalizedSig v sub).toNat = g at hlt hvalue
  -- the line of the table
  have hp : (k % 2).toNat < 2 := by omega
  have hi : g / 2 ^ (f.mantWidth - 6) < 64 := by
    rw [Nat.div_lt_iff_lt_mul (Nat.two_pow_pos _), show 64 = 2 ^ 6 from rfl, ← pow_add]
    rwa [Nat.add_sub_cancel' hdiv]
  obtain ⟨ht, hlo, hhi⟩ := rsqrt7Table_lines _ hp _ hi
  have hindex := rsqrt7_index (normalizedExp v sub) (normalizedSig v sub)
  rw [hk, hg] at hindex
  obtain ⟨hline, hline'⟩ := fraction_line (g := g) hdiv
  obtain ⟨hbelow, habove⟩ := line_bounds hlo hhi (Nat.two_pow_pos (f.mantWidth - 6)) hline hline'
  generalize hT : rsqrt7Table.getD (64 * (k % 2).toNat + g / 2 ^ (f.mantWidth - 6)) 0 = T at *
  -- the exponent
  have hexp := toNat_exponent (f := f) (x := (3 * f.bias - 1 - k) / 2) (by omega) (by omega)
  have hout : rsqrt7 v sub = fmake (fsign v) (BitVec.ofInt f.expWidth ((3 * f.bias - 1 - k) / 2))
      (BitVec.ofNat f.mantWidth T <<< (f.mantWidth - 7)) := by
    show fmake (fsign v) (BitVec.ofInt f.expWidth
      ((3 * (2 ^ (f.expWidth - 1) - 1) - 1 - (normalizedExp v sub).toInt) / 2))
      (BitVec.ofNat f.mantWidth (rsqrt7Table.getD
        (bits (normalizedExp v sub) 0 1 ++ bits (normalizedSig v sub) (f.mantWidth - 6) 6).toNat 0)
        <<< (f.mantWidth - 7)) = _
    rw [hindex, hT, hk, hbias']
  have hpos : (BitVec.ofInt f.expWidth ((3 * f.bias - 1 - k) / 2)).toNat ≠ 0 := by omega
  have hmag := fmagnitude_estimate ht (fsign v) hpos
  rw [hexp] at hmag
  -- the exponents cancel
  have hprod : fmagnitude (rsqrt7 v sub) ^ 2 * fmagnitude v
      = ((128 + T) ^ 2 * (2 ^ f.mantWidth + g) : ℕ)
        * 2 ^ (-15 - ((k % 2).toNat : ℤ) - f.mantWidth) := by
    have hsum : (2 : ℚ) ^ (-15 - ((k % 2).toNat : ℤ) - f.mantWidth)
        = (2 ^ ((3 * f.bias - 1 - k) / 2 - f.bias - 7)) ^ 2
          * 2 ^ (k - f.bias - f.mantWidth) := by
      rw [← zpow_natCast, ← zpow_mul, ← zpow_add₀ two_ne_zero]
      congr 1
      push_cast
      omega
    rw [hout, hmag, hvalue, hsum]
    push_cast
    ring
  have hscale : 2 ^ (7 + (k % 2).toNat) * 2 ^ (f.mantWidth - 6)
      = 2 ^ (1 + (k % 2).toNat + f.mantWidth) := by
    rw [← pow_add]
    congr 1
    omega
  rw [Nat.mul_assoc, hscale] at hbelow habove
  obtain ⟨hbelow', habove'⟩ := value_bounds (w := 14)
    (z := -15 - ((k % 2).toNat : ℤ) - f.mantWidth) (by push_cast; omega) hbelow habove
  rw [hprod]
  refine ⟨by rw [hout, fsign_fmake], ?_, ?_, ?_⟩
  · rw [hout, fexp_fmake]
    intro hones
    rw [hones, BitVec.toNat_allOnes] at hexp
    omega
  · refine lt_of_eq_of_lt ?_ hbelow'
    norm_num
  · refine lt_of_lt_of_eq habove' ?_
    norm_num

/-! ## The reciprocal -/

/-- The line of the table of `recip7`. -/
theorem recip7_index (g : BitVec f.mantWidth) :
    (bits g (f.mantWidth - 7) 7).toNat = g.toNat / 2 ^ (f.mantWidth - 7)
      ∧ g.toNat / 2 ^ (f.mantWidth - 7) < 128 := by
  obtain ⟨hm, -⟩ := f.mantWidth_bounds
  have hg : g.toNat / 2 ^ (f.mantWidth - 7) < 2 ^ 7 := by
    rw [Nat.div_lt_iff_lt_mul (Nat.two_pow_pos _), ← pow_add]
    calc g.toNat < 2 ^ f.mantWidth := g.isLt
      _ = 2 ^ (7 + (f.mantWidth - 7)) := by
          congr 1
          omega
  refine ⟨?_, hg⟩
  unfold bits
  rw [BitVec.extractLsb'_toNat, Nat.shiftRight_eq_div_pow, Nat.mod_eq_of_lt hg]

/-- The result of `recip7` with the exponent `e` and the fraction `t` of seven bits. -/
def recip7Assemble (sign : BitVec 1) (e : ℤ) (t : ℕ) : BitVec f.width :=
  let midExp := BitVec.ofInt f.expWidth e
  let midSig := BitVec.ofNat f.mantWidth t <<< (f.mantWidth - 7)
  if midExp = 0#_ then
    fmake sign midExp (midSig >>> 1 ||| BitVec.ofNat _ (2 ^ (f.mantWidth - 1)))
  else if midExp = BitVec.allOnes _ then
    fmake sign 0#_ (midSig >>> 2 ||| BitVec.ofNat _ (2 ^ (f.mantWidth - 2)))
  else fmake sign midExp midSig

/-- What is assembled has the value that the exponent and the fraction stand for, be it normal or
subnormal. -/
theorem recip7Assemble_spec (sign : BitVec 1) {e : ℤ} {t : ℕ} (ht : t < 128) (hlo : -1 ≤ e)
    (hhi : e ≤ 2 * f.bias) :
    fsign (recip7Assemble (f := f) sign e t) = sign
      ∧ fexp (recip7Assemble (f := f) sign e t) ≠ BitVec.allOnes _
      ∧ fmagnitude (recip7Assemble (f := f) sign e t) = (128 + t : ℕ) * 2 ^ (e - f.bias - 7) := by
  obtain ⟨-, hpow, -, hwide, -⟩ := f.bias_spec
  have hpow' : (2 : ℤ) ^ f.expWidth = 2 * f.bias + 2 := by exact_mod_cast hpow
  have hones : ((BitVec.allOnes f.expWidth).toNat : ℤ) = 2 * f.bias + 1 := by
    rw [BitVec.toNat_allOnes]
    omega
  have hzero : 0#f.expWidth ≠ BitVec.allOnes _ := by
    intro heq
    rw [← heq, BitVec.toNat_ofNat, Nat.zero_mod] at hones
    omega
  unfold recip7Assemble
  simp only
  rcases lt_trichotomy e 0 with hneg | rfl | hpos
  · obtain rfl : e = -1 := by omega
    have hall : BitVec.ofInt f.expWidth (-1) = BitVec.allOnes _ := by
      apply BitVec.eq_of_toNat_eq
      have hmod : (-1 : ℤ) % 2 ^ f.expWidth = 2 ^ f.expWidth - 1 := by
        rw [← Int.add_emod_right]
        exact Int.emod_eq_of_lt (by omega) (by omega)
      have hnat := toNat_ofInt_eq f.expWidth (-1)
      omega
    rw [hall, if_neg hzero.symm, if_pos rfl, fsign_fmake, fexp_fmake,
      fmagnitude_estimate_subnormal ht sign (d := 2) (by omega)]
    exact ⟨rfl, hzero, by norm_num⟩
  · rw [show BitVec.ofInt f.expWidth 0 = 0#_ from rfl, if_pos rfl, fsign_fmake, fexp_fmake,
      fmagnitude_estimate_subnormal ht sign (d := 1) (by omega)]
    exact ⟨rfl, hzero, by norm_num⟩
  · have hexp := toNat_exponent (f := f) (x := e) (by omega) (by omega)
    have hne : BitVec.ofInt f.expWidth e ≠ 0#_ := by
      intro heq
      rw [heq, BitVec.toNat_ofNat, Nat.zero_mod] at hexp
      omega
    have hne' : BitVec.ofInt f.expWidth e ≠ BitVec.allOnes _ := by
      intro heq
      rw [heq] at hexp
      omega
    rw [if_neg hne, if_neg hne', fsign_fmake, fexp_fmake,
      fmagnitude_estimate ht sign (by omega), hexp]
    exact ⟨rfl, hne', rfl⟩

/-- **The estimate of the reciprocal.** -/
theorem recip7Value_accurate {v : BitVec f.width} {sub : Bool}
    (h : Normalized v (normalizedExp v sub).toInt (normalizedSig v sub).toNat)
    (hlow : -1 ≤ (normalizedExp v sub).toInt) :
    fsign (recip7Value v sub) = fsign v ∧ fexp (recip7Value v sub) ≠ BitVec.allOnes _
      ∧ 1 - 1 / 2 ^ 7 < fmagnitude (recip7Value v sub) * fmagnitude v
      ∧ fmagnitude (recip7Value v sub) * fmagnitude v < 1 + 1 / 2 ^ 7 := by
  obtain ⟨hm, -⟩ := f.mantWidth_bounds
  obtain ⟨hbias, -⟩ := f.bias_spec
  obtain ⟨hlt, hvalue, -, hle⟩ := h
  have hbias' : (2 : ℤ) ^ (f.expWidth - 1) - 1 = f.bias := by
    rw [hbias, Nat.cast_sub (Nat.two_pow_pos _)]
    push_cast
    rfl
  obtain ⟨hindex, hi⟩ := recip7_index (normalizedSig v sub)
  generalize hk : (normalizedExp v sub).toInt = k at hvalue hle hlow
  generalize hg : (normalizedSig v sub).toNat = g at hlt hvalue hindex hi
  obtain ⟨ht, hlo, hhi⟩ := recip7Table_lines _ hi
  obtain ⟨hline, hline'⟩ := fraction_line (g := g) (show 7 ≤ f.mantWidth by omega)
  obtain ⟨hbelow, habove⟩ := line_bounds hlo hhi (Nat.two_pow_pos (f.mantWidth - 7)) hline hline'
  generalize hT : recip7Table.getD (g / 2 ^ (f.mantWidth - 7)) 0 = T at *
  have hout : recip7Value v sub = recip7Assemble (fsign v) (2 * f.bias - 1 - k) T := by
    show recip7Assemble (fsign v)
      (2 * (2 ^ (f.expWidth - 1) - 1) - 1 - (normalizedExp v sub).toInt)
      (recip7Table.getD (bits (normalizedSig v sub) (f.mantWidth - 7) 7).toNat 0) = _
    rw [hindex, hT, hk, hbias']
  obtain ⟨hsign, hfin, hmag⟩ := recip7Assemble_spec (f := f) (fsign v) ht
    (show -1 ≤ 2 * (f.bias : ℤ) - 1 - k by omega) (by omega)
  rw [← hout] at hsign hfin hmag
  -- the exponents cancel
  have hprod : fmagnitude (recip7Value v sub) * fmagnitude v
      = ((128 + T) * (2 ^ f.mantWidth + g) : ℕ) * 2 ^ (-8 - (f.mantWidth : ℤ)) := by
    have hsum : (2 : ℚ) ^ (-8 - (f.mantWidth : ℤ))
        = 2 ^ (2 * f.bias - 1 - k - f.bias - 7) * 2 ^ (k - f.bias - f.mantWidth) := by
      rw [← zpow_add₀ two_ne_zero]
      congr 1
      omega
    rw [hmag, hvalue, hsum]
    push_cast
    ring
  have hscale : 2 ^ 8 * 2 ^ (f.mantWidth - 7) = 2 ^ (1 + f.mantWidth) := by
    rw [← pow_add]
    congr 1
    omega
  rw [Nat.mul_assoc, hscale] at hbelow habove
  obtain ⟨hbelow', habove'⟩ := value_bounds (w := 7) (z := -8 - (f.mantWidth : ℤ))
    (by push_cast; omega) hbelow habove
  rw [hprod]
  refine ⟨hsign, hfin, lt_of_eq_of_lt ?_ hbelow', lt_of_lt_of_eq habove' ?_⟩
  · norm_num
  · norm_num

/-! ## The laws -/

/-- A number has no more than seven bits of error in `rsqrt7`. -/
def RsqrtLaw (v : BitVec f.width) : Prop :=
  fexp (rsqrte7 v).2 ≠ BitVec.allOnes _
    ∧ (1 - 1 / 2 ^ 7) ^ 2 < frational (rsqrte7 v).2 ^ 2 * frational v
    ∧ frational (rsqrte7 v).2 ^ 2 * frational v < (1 + 1 / 2 ^ 7) ^ 2

/-- `recip7` reports an overflow. -/
def RecipOverflows (rm : BitVec 3) (v : BitVec f.width) : Prop :=
  (recip7e rm v).1 = nxFlag ||| ofFlag

/-- Results are rounded towards zero. -/
def TowardsZero (rm : BitVec 3) (sign : BitVec 1) : Prop :=
  rm = encdecRoundingMode .RM_RTZ ∨ (rm = encdecRoundingMode .RM_RDN ∧ sign = 0b0#1)
    ∨ (rm = encdecRoundingMode .RM_RUP ∧ sign = 0b1#1)

/-- The largest finite number with a sign. -/
def flargest (f : FpFormat) (sign : BitVec 1) : BitVec f.width :=
  fmake sign (BitVec.allOnes _ - 1#_) (BitVec.allOnes _)

/-- A number has no more than seven bits of error in `recip7`, unless its reciprocal is above the
powers of two of the format; then the result is an infinity or the largest number. -/
structure RecipLaw (rm : BitVec 3) (v : BitVec f.width) : Prop where
  overflows_iff : RecipOverflows rm v ↔ 2 ^ (f.bias + 1) < |1 / frational v|
  overflows_iff_zeros :
    RecipOverflows rm v ↔ fexp v = 0#_ ∧ (fmant v).toNat < 2 ^ (f.mantWidth - 2)
  finite : ¬ RecipOverflows rm v → fexp (recip7e rm v).2 ≠ BitVec.allOnes _
    ∧ fsign (recip7e rm v).2 = fsign v
  accurate : ¬ RecipOverflows rm v → |frational v * frational (recip7e rm v).2 - 1| < 1 / 2 ^ 7
  overflow_infinite : RecipOverflows rm v → ¬ TowardsZero rm (fsign v) →
    (recip7e rm v).2 = finf f (fsign v)
  overflow_finite : RecipOverflows rm v → TowardsZero rm (fsign v) →
    (recip7e rm v).2 = flargest f (fsign v)

/-- A number that is not zero has a magnitude, and a fraction if it is subnormal. -/
theorem ne_zero_spec {v : BitVec f.width} (hne : frational v ≠ 0) :
    fmagnitude v ≠ 0 ∧ (fexp v = 0#_ → fmant v ≠ 0#_) := by
  have hmag : fmagnitude v ≠ 0 := by
    intro hzero
    apply hne
    unfold frational withSign
    rw [hzero, neg_zero, ite_self]
  refine ⟨hmag, fun hexp hmant => hmag (magnitude_eq_zero.mpr ⟨?_, ?_⟩)⟩
  · rw [hexp]
    exact BitVec.toNat_ofNat _ _ |>.trans (Nat.zero_mod _)
  · rw [hmant]
    exact BitVec.toNat_ofNat _ _ |>.trans (Nat.zero_mod _)

/-- The value of a number without a sign. -/
theorem frational_of_pos {v : BitVec f.width} (hsign : fsign v = 0b0#1) :
    frational v = fmagnitude v := by
  unfold frational withSign
  rw [hsign, if_neg (by decide)]

/-- A positive number has no sign. -/
theorem fsign_of_pos {v : BitVec f.width} (hpos : 0 < frational v) : fsign v = 0b0#1 := by
  rcases fsign_cases v with hsign | hsign
  · exact hsign
  · exfalso
    have hnonneg : 0 ≤ fmagnitude v := magnitude_nonneg
    unfold frational withSign at hpos
    rw [hsign, if_pos rfl] at hpos
    linarith

/-- What is computed for a positive number. -/
theorem rsqrte7_of_pos {v : BitVec f.width} (hfin : fexp v ≠ BitVec.allOnes _)
    (hpos : 0 < frational v) : rsqrte7 v = (0#5, rsqrt7 v (fexp v == 0#_)) := by
  obtain ⟨-, hmant⟩ := ne_zero_spec hpos.ne'
  have hsign := fsign_of_pos hpos
  have hexp : (fexp v == BitVec.allOnes _) = false := beq_eq_false_iff_ne.mpr hfin
  have hsub : fIsPosSubnorm v = (fexp v == 0#_) ∧ fIsPosZero v = false := by
    unfold fIsPosSubnorm fIsPosZero
    rw [hsign]
    rcases hzero : fexp v == 0#_ with _ | _
    · simp
    · have hne := hmant (beq_iff_eq.mp hzero)
      simp [hne]
  have hneg : fIsNegInf v = false ∧ fIsNegNorm v = false ∧ fIsNegSubnorm v = false
      ∧ fIsNegZero v = false := by
    unfold fIsNegInf fIsNegNorm fIsNegSubnorm fIsNegZero
    rw [hsign]
    simp
  have hspecial : fIsSNaN v = false ∧ fIsQNaN v = false ∧ fIsPosInf v = false := by
    unfold fIsSNaN fIsQNaN fIsPosInf
    rw [hexp]
    simp
  unfold rsqrte7
  rw [hneg.1, hneg.2.1, hneg.2.2.1, hneg.2.2.2, hspecial.1, hspecial.2.1, hspecial.2.2, hsub.1,
    hsub.2]
  rfl

/-- What is computed for a number that is not zero. -/
theorem recip7e_of_ne {v : BitVec f.width} (rm : BitVec 3) (hfin : fexp v ≠ BitVec.allOnes _)
    (hne : frational v ≠ 0) : recip7e rm v
      = (if (recip7 v rm (fexp v == 0#_)).1 then nxFlag ||| ofFlag else 0#5,
        (recip7 v rm (fexp v == 0#_)).2) := by
  obtain ⟨-, hmant⟩ := ne_zero_spec hne
  have hexp : (fexp v == BitVec.allOnes _) = false := beq_eq_false_iff_ne.mpr hfin
  have hsub : (fIsNegSubnorm v || fIsPosSubnorm v) = (fexp v == 0#_) ∧ fIsNegZero v = false
      ∧ fIsPosZero v = false := by
    unfold fIsNegSubnorm fIsPosSubnorm fIsPosZero fIsNegZero
    rcases hzero : fexp v == 0#_ with _ | _
    · simp
    · have hne := hmant (beq_iff_eq.mp hzero)
      rcases fsign_cases v with hsign | hsign
      · simp [hsign, hne]
      · simp [hsign, hne]
  have hspecial : fIsSNaN v = false ∧ fIsQNaN v = false ∧ fIsPosInf v = false
      ∧ fIsNegInf v = false := by
    unfold fIsSNaN fIsQNaN fIsPosInf fIsNegInf
    rw [hexp]
    simp
  unfold recip7e
  rw [hspecial.1, hspecial.2.1, hspecial.2.2.1, hspecial.2.2.2, hsub.1, hsub.2.1, hsub.2.2]
  rfl

/-- The estimates of the reciprocal of the square root. -/
theorem rsqrtLaw {v : BitVec f.width} (hfin : fexp v ≠ BitVec.allOnes _)
    (hpos : 0 < frational v) : RsqrtLaw v := by
  obtain ⟨hmag, -⟩ := ne_zero_spec hpos.ne'
  have hnorm : Normalized v (normalizedExp v (fexp v == 0#_)).toInt
      (normalizedSig v (fexp v == 0#_)).toNat := normalized_spec hfin hmag beq_iff_eq
  obtain ⟨hsign, hout, hlo, hhi⟩ := rsqrt7_accurate hnorm
  have hpos' := fsign_of_pos hpos
  unfold RsqrtLaw
  rw [rsqrte7_of_pos hfin hpos, frational_of_pos hpos', frational_of_pos (hsign.trans hpos')]
  exact ⟨hout, hlo, hhi⟩

/-- More than one leading zero. -/
theorem countLeadingzeros_gt_one_iff {v : BitVec f.width} (hmant : (fmant v).toNat ≠ 0) :
    countLeadingzeros (fmant v) > 1 ↔ (fmant v).toNat < 2 ^ (f.mantWidth - 2) := by
  obtain ⟨hm, -⟩ := f.mantWidth_bounds
  obtain ⟨j, hj, hcount, hlo, hhi⟩ := countLeadingzeros_spec hmant
  constructor
  · intro hgt
    exact lt_of_lt_of_le hhi (Nat.pow_le_pow_right Nat.two_pos (by omega))
  · intro hlt
    have hjlt := (Nat.pow_lt_pow_iff_right (by omega)).mp (lt_of_le_of_lt hlo hlt)
    omega

/-- The numbers with a reciprocal that is too large. -/
theorem reciprocal_large_iff {v : BitVec f.width} (hmag : fmagnitude v ≠ 0) :
    2 ^ (f.bias + 1) < |1 / frational v|
      ↔ fexp v = 0#_ ∧ (fmant v).toNat < 2 ^ (f.mantWidth - 2) := by
  obtain ⟨hm, -⟩ := f.mantWidth_bounds
  have hpos : 0 < fmagnitude v := lt_of_le_of_ne magnitude_nonneg hmag.symm
  have habs : |1 / frational v| = 1 / fmagnitude v := by
    unfold frational withSign
    rw [abs_div, abs_one]
    split
    · rw [abs_neg, abs_of_pos hpos]
    · rw [abs_of_pos hpos]
  have hunit : (0 : ℚ) < 2 ^ ((1 : ℤ) - f.bias - f.mantWidth) := by positivity
  have hbound : (1 : ℚ) / 2 ^ (f.bias + 1)
      = (2 ^ (f.mantWidth - 2) : ℕ) * 2 ^ ((1 : ℤ) - f.bias - f.mantWidth) := by
    rw [Nat.cast_pow, Nat.cast_ofNat, ← zpow_natCast, ← zpow_natCast, one_div, ← zpow_neg,
      ← zpow_add₀ two_ne_zero]
    congr 1
    omega
  have hscaled : 2 ^ (f.bias + 1) < |1 / frational v|
      ↔ scaled f.mantWidth (fexp v).toNat (fmant v).toNat < 2 ^ (f.mantWidth - 2) := by
    rw [habs, lt_one_div (by positivity) hpos, hbound]
    unfold fmagnitude magnitude
    rw [mul_lt_mul_iff_left₀ hunit, Nat.cast_lt]
  rw [hscaled]
  by_cases hexp : fexp v = 0#_
  · rw [hexp, BitVec.toNat_ofNat, Nat.zero_mod, scaled_zero]
    exact (and_iff_right rfl).symm
  · have hne : (fexp v).toNat ≠ 0 := fun h => hexp (BitVec.eq_of_toNat_eq h)
    refine iff_of_false ?_ fun h => hexp h.1
    have hle := le_scaled (m := f.mantWidth) (t := (fmant v).toNat) hne
    have hpow : 2 ^ (f.mantWidth - 2) ≤ 2 ^ f.mantWidth * 2 ^ ((fexp v).toNat - 1) :=
      le_trans (Nat.pow_le_pow_right Nat.two_pos (Nat.sub_le _ _))
        (Nat.le_mul_of_pos_right _ (Nat.two_pow_pos _))
    omega

/-- The result of `recip7` for a number with too large a reciprocal. -/
theorem recip7_large {v : BitVec f.width} (rm : BitVec 3) (hmag : fmagnitude v ≠ 0)
    (hexp : fexp v = 0#_) (hsmall : (fmant v).toNat < 2 ^ (f.mantWidth - 2)) :
    (recip7 v rm (fexp v == 0#_)).1 = true
      ∧ (TowardsZero rm (fsign v) → (recip7 v rm (fexp v == 0#_)).2 = flargest f (fsign v))
      ∧ (¬ TowardsZero rm (fsign v) → (recip7 v rm (fexp v == 0#_)).2 = finf f (fsign v)) := by
  have hmant : (fmant v).toNat ≠ 0 := by
    intro hzero
    exact hmag (magnitude_eq_zero.mpr ⟨by rw [hexp]; simp, hzero⟩)
  have hcond : ((fexp v == 0#_) && decide (countLeadingzeros (fmant v) > 1)) = true := by
    rw [Bool.and_eq_true, beq_iff_eq, decide_eq_true_iff]
    exact ⟨hexp, (countLeadingzeros_gt_one_iff hmant).mpr hsmall⟩
  have htowards : (rm == 0b001#3 || (rm == 0b010#3 && fsign v == 0b0#1)
      || (rm == 0b011#3 && fsign v == 0b1#1)) = true ↔ TowardsZero rm (fsign v) := by
    unfold TowardsZero encdecRoundingMode
    rw [Bool.or_eq_true, Bool.or_eq_true, Bool.and_eq_true, Bool.and_eq_true, beq_iff_eq,
      beq_iff_eq, beq_iff_eq, beq_iff_eq, beq_iff_eq, or_assoc]
  unfold recip7
  simp only [hcond, if_true]
  refine ⟨?_, fun hyes => ?_, fun hno => ?_⟩
  · split
    · rfl
    · rfl
  · rw [if_pos (htowards.mpr hyes)]
    rfl
  · rw [if_neg fun h => hno (htowards.mp h)]

/-- The result of `recip7` for the other numbers. -/
theorem recip7_small {v : BitVec f.width} (rm : BitVec 3) (hfin : fexp v ≠ BitVec.allOnes _)
    (hmag : fmagnitude v ≠ 0)
    (hnot : ¬ (fexp v = 0#_ ∧ (fmant v).toNat < 2 ^ (f.mantWidth - 2))) :
    recip7 v rm (fexp v == 0#_) = (false, recip7Value v (fexp v == 0#_))
      ∧ -1 ≤ (normalizedExp v (fexp v == 0#_)).toInt := by
  by_cases hexp : fexp v = 0#_
  · have hmant : (fmant v).toNat ≠ 0 := by
      intro hzero
      exact hmag (magnitude_eq_zero.mpr ⟨by rw [hexp]; simp, hzero⟩)
    have hcount : ¬ countLeadingzeros (fmant v) > 1 := fun hgt =>
      hnot ⟨hexp, (countLeadingzeros_gt_one_iff hmant).mp hgt⟩
    obtain ⟨hk, -, -⟩ := normalized_subnormal hexp hmant
    have hsub : (fexp v == 0#_) = true := beq_iff_eq.mpr hexp
    rw [hsub, hk]
    refine ⟨?_, by omega⟩
    unfold recip7
    rw [Bool.true_and, if_neg (by rw [decide_eq_true_iff]; exact hcount)]
  · obtain ⟨hk, -⟩ := normalized_normal hfin hexp
    have hsub : (fexp v == 0#_) = false := beq_eq_false_iff_ne.mpr hexp
    rw [hsub, hk]
    exact ⟨rfl, by omega⟩

/-- The product of two numbers with the same sign. -/
theorem frational_mul {a b : BitVec f.width} (h : fsign b = fsign a) :
    frational a * frational b = fmagnitude b * fmagnitude a := by
  unfold frational withSign
  rw [h]
  split
  · rw [neg_mul_neg, mul_comm]
  · rw [mul_comm]

/-- The estimates of the reciprocal. -/
theorem recipLaw {v : BitVec f.width} (rm : BitVec 3) (hfin : fexp v ≠ BitVec.allOnes _)
    (hne : frational v ≠ 0) : RecipLaw rm v := by
  obtain ⟨hmag, -⟩ := ne_zero_spec hne
  have hlarge := reciprocal_large_iff hmag
  have heq := recip7e_of_ne rm hfin hne
  by_cases hover : fexp v = 0#_ ∧ (fmant v).toNat < 2 ^ (f.mantWidth - 2)
  · obtain ⟨hflag, hfinite, hinf⟩ := recip7_large rm hmag hover.1 hover.2
    rw [hflag, if_pos rfl] at heq
    have hyes : RecipOverflows rm v := by
      unfold RecipOverflows
      rw [heq]
    refine ⟨iff_of_true hyes (hlarge.mpr hover), iff_of_true hyes hover,
      fun hno => absurd hyes hno, fun hno => absurd hyes hno, fun _ ht => ?_, fun _ ht => ?_⟩
    · rw [heq]
      exact hinf ht
    · rw [heq]
      exact hfinite ht
  · obtain ⟨hout, hlow⟩ := recip7_small rm hfin hmag hover
    have hnorm : Normalized v (normalizedExp v (fexp v == 0#_)).toInt
        (normalizedSig v (fexp v == 0#_)).toNat := normalized_spec hfin hmag beq_iff_eq
    obtain ⟨hsign, hfin', hlo, hhi⟩ := recip7Value_accurate hnorm hlow
    rw [hout, if_neg Bool.false_ne_true] at heq
    have hno : ¬ RecipOverflows rm v := by
      unfold RecipOverflows
      rw [heq]
      show ¬ (0#5 : Fflags) = nxFlag ||| ofFlag
      decide
    refine ⟨iff_of_false hno (fun h => hover (hlarge.mp h)), iff_of_false hno hover,
      fun _ => ?_, fun _ => ?_, fun hyes => absurd hyes hno, fun hyes => absurd hyes hno⟩
    · rw [heq]
      exact ⟨hfin', hsign⟩
    · rw [heq, frational_mul hsign, abs_lt]
      constructor
      · linarith
      · linarith

/-- **The estimates are accurate to seven bits**: of the reciprocal of the square root, for every
positive number, and of the reciprocal, for every number that is not zero. -/
theorem estimates_accurate (f : FpFormat) (v : BitVec f.width) (hfin : fexp v ≠ BitVec.allOnes _) :
    (0 < frational v → RsqrtLaw v) ∧ (frational v ≠ 0 → ∀ rm, RecipLaw rm v) :=
  ⟨rsqrtLaw hfin, fun hne rm => recipLaw rm hfin hne⟩

end

/-- The least positive number of binary16 has an estimate of the reciprocal of its square root, and
its reciprocal overflows. -/
theorem estimates_accurate_least :
    RsqrtLaw (f := .H) 0x0001#16 ∧ RecipLaw (f := .H) 0b000#3 0x0001#16 := by
  have hmag : fmagnitude (f := .H) 0x0001#16 ≠ 0 := by
    intro hzero
    exact absurd (magnitude_eq_zero.mp hzero).2 (by decide)
  have hpos : 0 < frational (f := .H) 0x0001#16 := by
    rw [frational_of_pos (by decide)]
    exact lt_of_le_of_ne magnitude_nonneg hmag.symm
  obtain ⟨hrsqrt, hrecip⟩ := estimates_accurate .H 0x0001#16 (by decide)
  exact ⟨hrsqrt hpos, hrecip hpos.ne' _⟩

end SailRiscv
