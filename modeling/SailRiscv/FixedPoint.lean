/-
# Rounding and saturation of elements

The fixed-point operations on elements against exact arithmetic.  A vector of bits stands for an
integer modulo a power of two; shifting it and adding the increment that is read off its bits
rounds the exact quotient in the mode of `vxrm`, and saturation clamps an exact result.
-/
import SailRiscv.Lib.Rounding
import SailRiscv.VextElems

namespace SailRiscv

open Bits Platform Rounding

/-! ## Integers in vectors of bits -/

section

variable {w n s : ℕ} {v : ℤ}

/-- Bits in the middle of an integer, of which the bits from `w` on are missing. -/
theorem emod_ediv_emod (v : ℤ) (h : s + n ≤ w) :
    v % 2 ^ w / 2 ^ s % 2 ^ n = v / 2 ^ s % 2 ^ n := by
  obtain ⟨d, rfl⟩ := Nat.exists_eq_add_of_le h
  have hpow : (2 : ℤ) ^ (s + n + d) = 2 ^ s * (2 ^ n * 2 ^ d) := by
    rw [pow_add, pow_add, mul_assoc]
  have hs : (2 : ℤ) ^ s ≠ 0 := by positivity
  have hmod : v % 2 ^ (s + n + d) = v + 2 ^ s * (2 ^ n * -(2 ^ d * (v / 2 ^ (s + n + d)))) := by
    rw [Int.emod_def, hpow]
    ring
  rw [hmod, Int.add_mul_ediv_left _ _ hs, Int.add_mul_emod_self_left]

/-- The number that represents `v`. -/
theorem toNat_ofInt_eq (w : ℕ) (v : ℤ) : ((BitVec.ofInt w v).toNat : ℤ) = v % 2 ^ w := by
  rw [BitVec.toNat_ofInt, Int.toNat_of_nonneg (Int.emod_nonneg _ (by positivity))]
  push_cast
  rfl

/-- Vectors are equal when they represent the same integer. -/
theorem eq_ofInt {e : BitVec n} (h : (e.toNat : ℤ) = v % 2 ^ n) : e = BitVec.ofInt n v := by
  apply BitVec.eq_of_toNat_eq
  have hv := toNat_ofInt_eq n v
  omega

theorem ofInt_toNat (e : BitVec n) : BitVec.ofInt n e.toNat = e := by
  refine (eq_ofInt ?_).symm
  rw [Int.emod_eq_of_lt (by omega) (by exact_mod_cast e.isLt)]

/-- A slice of a vector that has been shifted to the right. -/
theorem slice_shift_ofInt (v : ℤ) (h : s + n ≤ w) :
    slice (BitVec.ofInt w v >>> s) 0 n = BitVec.ofInt n (v / 2 ^ s) := by
  apply eq_ofInt
  unfold slice
  rw [BitVec.extractLsb'_toNat, BitVec.toNat_ushiftRight, Nat.shiftRight_zero,
    Nat.shiftRight_eq_div_pow]
  push_cast
  rw [toNat_ofInt_eq, emod_ediv_emod v h]

/-- A slice of a vector. -/
theorem toNat_slice_ofInt (v : ℤ) (h : s + n ≤ w) :
    ((slice (BitVec.ofInt w v) s n).toNat : ℤ) = v / 2 ^ s % 2 ^ n := by
  unfold slice
  rw [BitVec.extractLsb'_toNat, Nat.shiftRight_eq_div_pow]
  push_cast
  rw [toNat_ofInt_eq, emod_ediv_emod v h]

end

/-! ## The rounding increment -/

/-- The mode in `vxrm`. -/
def roundingMode (vxrm : BitVec 2) : Mode :=
  if vxrm = 0b00#2 then .rnu
  else if vxrm = 0b01#2 then .rne
  else if vxrm = 0b10#2 then .rdn
  else .rod

section

variable {w s : ℕ} {v : ℤ}

/-- One bit of an integer. -/
theorem slice_bit_ofInt (h : s < w) :
    (slice (BitVec.ofInt w v) s 1 = 1#1) ↔ v / 2 ^ s % 2 = 1 := by
  have hbit := toNat_slice_ofInt (n := 1) v (show s + 1 ≤ w from h)
  rw [pow_one] at hbit
  rw [← hbit, ← BitVec.toNat_inj]
  norm_cast

/-- Whether some of the lower bits are set. -/
theorem slice_low_ofInt (h : s ≤ w) :
    (slice (BitVec.ofInt w v) 0 s ≠ 0#s) ↔ v % 2 ^ s ≠ 0 := by
  have hlow := toNat_slice_ofInt (s := 0) v (show 0 + s ≤ w by omega)
  rw [pow_zero, Int.ediv_one] at hlow
  rw [← hlow, ne_eq, ne_eq, ← BitVec.toNat_inj, BitVec.toNat_zero]
  norm_cast

/-- The number in a Boolean. -/
theorem toNat_boolToBits (b : Bool) : ((boolToBits b).toNat : ℤ) = if b then 1 else 0 := by
  cases b <;> rfl

/-- **The bits that are examined give the increment of the exact quotient.** -/
theorem toNat_fixedRoundingIncr (vxrm : BitVec 2) (v : ℤ) (h : s < w) :
    ((fixedRoundingIncr vxrm (BitVec.ofInt w v) s).toNat : ℤ)
      = increment (roundingMode vxrm) v s := by
  unfold fixedRoundingIncr increment roundingMode
  by_cases hs : s = 0
  · rw [if_pos hs, if_pos hs]
    rfl
  rw [if_neg hs, if_neg hs]
  have hhalf := slice_bit_ofInt (v := v) (show s - 1 < w by omega)
  have hlast := slice_bit_ofInt (v := v) h
  by_cases h0 : vxrm = 0b00#2
  · rw [if_pos h0, if_pos h0]
    have hbit := toNat_slice_ofInt (n := 1) v (show s - 1 + 1 ≤ w by omega)
    rw [pow_one] at hbit
    exact hbit
  rw [if_neg h0, if_neg h0]
  by_cases h1 : vxrm = 0b01#2
  · rw [if_pos h1, if_pos h1, toNat_boolToBits]
    refine if_congr ?_ rfl rfl
    rw [Bool.and_eq_true, Bool.or_eq_true, beq_iff_eq, beq_iff_eq, bne_iff_ne, hhalf, hlast,
      slice_low_ofInt (by omega)]
  rw [if_neg h1, if_neg h1]
  by_cases h2 : vxrm = 0b10#2
  · rw [if_pos h2, if_pos h2]
    rfl
  · rw [if_neg h2, if_neg h2, toNat_boolToBits]
    refine if_congr ?_ rfl rfl
    rw [Bool.and_eq_true, Bool.not_eq_true', beq_eq_false_iff_ne, bne_iff_ne, ne_eq, hlast,
      slice_low_ofInt h.le]
    refine and_congr_left (fun _ => ?_)
    omega

end

/-! ## Saturation -/

/-- A range of integers. -/
structure Range where
  lo : ℤ
  hi : ℤ

namespace Range

/-- The integer in the range that is closest to `x`. -/
def clamp (r : Range) (x : ℤ) : ℤ := max r.lo (min x r.hi)

/-- `x` lies outside the range. -/
def out (r : Range) (x : ℤ) : Bool := decide (x < r.lo ∨ r.hi < x)

/-- The numbers of `m` bits. -/
def unsigned (m : ℕ) : Range := ⟨0, 2 ^ m - 1⟩

/-- The signed numbers of `m` bits. -/
def signed (m : ℕ) : Range := ⟨-2 ^ (m - 1), 2 ^ (m - 1) - 1⟩

variable {r : Range} {x : ℤ}

theorem out_of_gt (h : r.hi < x) : r.out x = true := decide_eq_true (Or.inr h)

theorem out_of_lt (h : x < r.lo) : r.out x = true := decide_eq_true (Or.inl h)

theorem out_of_mem (hlo : r.lo ≤ x) (hhi : x ≤ r.hi) : r.out x = false :=
  decide_eq_false (by omega)

theorem clamp_of_gt (h : r.hi < x) (hr : r.lo ≤ r.hi) : r.clamp x = r.hi := by
  unfold clamp
  omega

theorem clamp_of_lt (h : x < r.lo) : r.clamp x = r.lo := by
  unfold clamp
  omega

theorem clamp_of_mem (hlo : r.lo ≤ x) (hhi : x ≤ r.hi) : r.clamp x = x := by
  unfold clamp
  omega

end Range

/-- The state with `vxsat` set, if `b`. -/
def State.satIf [Platform] (s : State) (b : Bool) : State :=
  if b then { s with vcsr := Vcsr.vxsat.set s.vcsr 1#1 } else s

section

variable {m n : ℕ} {x : ℤ}

theorem toInt_ofInt_eq (hlo : -2 ^ (n - 1) ≤ x) (hhi : x < 2 ^ (n - 1)) (hn : 0 < n) :
    (BitVec.ofInt n x).toInt = x := by
  obtain ⟨k, rfl⟩ := Nat.exists_eq_add_of_lt hn
  rw [Nat.zero_add, Nat.add_sub_cancel] at hlo hhi
  rw [BitVec.toInt_ofInt, Int.bmod_eq_of_le_mul_two]
  all_goals
    push_cast
    rw [Nat.zero_add, pow_succ]
    linarith

theorem setWidth_ofInt (h : m ≤ n) : (BitVec.ofInt n x).setWidth m = BitVec.ofInt m x := by
  apply eq_ofInt
  rw [BitVec.toNat_setWidth]
  push_cast
  rw [toNat_ofInt_eq]
  exact Int.emod_emod_of_dvd x (pow_dvd_pow 2 h)

theorem toNat_signedMax (k : ℕ) : (signedMax (k + 1)).toNat = 2 ^ k - 1 := by
  have hpow := Nat.two_pow_pos k
  unfold signedMax
  rw [BitVec.toNat_setWidth, BitVec.toNat_allOnes, Nat.add_sub_cancel,
    Nat.mod_eq_of_lt (by rw [pow_succ]; omega)]

/-- The largest signed number. -/
theorem signedMax_eq (hm : 0 < m) : signedMax m = BitVec.ofInt m (Range.signed m).hi := by
  obtain ⟨k, rfl⟩ := Nat.exists_eq_add_of_lt hm
  rw [Nat.zero_add]
  apply eq_ofInt
  have hpow : (0 : ℤ) < 2 ^ k := by positivity
  rw [toNat_signedMax]
  show ((2 ^ k - 1 : ℕ) : ℤ) = (2 ^ (k + 1 - 1) - 1) % 2 ^ (k + 1)
  rw [Nat.add_sub_cancel, Int.emod_eq_of_lt (by omega) (by rw [pow_succ]; omega)]
  push_cast [Nat.one_le_two_pow]
  rfl

/-- The smallest signed number. -/
theorem signedMin_eq (hm : 0 < m) : signedMin m = BitVec.ofInt m (Range.signed m).lo := by
  obtain ⟨k, rfl⟩ := Nat.exists_eq_add_of_lt hm
  rw [Nat.zero_add]
  apply eq_ofInt
  have hpow : (0 : ℤ) < 2 ^ k := by positivity
  have hnat := Nat.two_pow_pos k
  unfold signedMin
  rw [BitVec.toNat_not, toNat_signedMax, pow_succ]
  show ((2 ^ k * 2 - 1 - (2 ^ k - 1) : ℕ) : ℤ) = -2 ^ (k + 1 - 1) % (2 ^ k * 2)
  rw [Nat.add_sub_cancel, show 2 ^ k * 2 - 1 - (2 ^ k - 1) = 2 ^ k by omega,
    ← Int.add_emod_right, show -(2 : ℤ) ^ k + 2 ^ k * 2 = 2 ^ k by ring,
    Int.emod_eq_of_lt hpow.le (by omega)]
  push_cast
  rfl

variable [Platform] {s : State}

/-- Saturating an unsigned number. -/
theorem run_unsignedSaturation (hlo : 0 ≤ x) (hhi : x < 2 ^ n) (hmn : m ≤ n) :
    (unsignedSaturation m (BitVec.ofInt n x)).run s
      = .ok (BitVec.ofInt m ((Range.unsigned m).clamp x), s.satIf ((Range.unsigned m).out x)) := by
  have hx : ((BitVec.ofInt n x).toNat : ℤ) = x := by
    rw [toNat_ofInt_eq, Int.emod_eq_of_lt hlo hhi]
  have hpow : (0 : ℤ) < 2 ^ m := by positivity
  have hones : ((BitVec.allOnes m).toNat : ℤ) = 2 ^ m - 1 := by
    rw [BitVec.toNat_allOnes]
    push_cast [Nat.one_le_two_pow]
    rfl
  unfold unsignedSaturation
  by_cases hgt : (BitVec.ofInt n x).toNat > (BitVec.allOnes m).toNat
  · rw [if_pos hgt]
    have hout : (Range.unsigned m).hi < x := by
      show (2 : ℤ) ^ m - 1 < x
      omega
    rw [Range.out_of_gt hout, Range.clamp_of_gt hout (by show (0 : ℤ) ≤ 2 ^ m - 1; omega)]
    have hval : BitVec.allOnes m = BitVec.ofInt m (Range.unsigned m).hi := by
      apply eq_ofInt
      rw [hones]
      exact (Int.emod_eq_of_lt (by omega) (by omega)).symm
    rw [hval]
    rfl
  · rw [if_neg hgt]
    have hle : x ≤ (Range.unsigned m).hi := by
      show x ≤ 2 ^ m - 1
      omega
    rw [Range.out_of_mem hlo hle, Range.clamp_of_mem hlo hle, setWidth_ofInt hmn]
    rfl

/-- Saturating a signed number. -/
theorem run_signedSaturation (hm : 0 < m) (hlo : -2 ^ (n - 1) ≤ x) (hhi : x < 2 ^ (n - 1))
    (hmn : m ≤ n) :
    (signedSaturation m (BitVec.ofInt n x)).run s
      = .ok (BitVec.ofInt m ((Range.signed m).clamp x), s.satIf ((Range.signed m).out x)) := by
  have hpow : (0 : ℤ) < 2 ^ (m - 1) := by positivity
  have hx := toInt_ofInt_eq hlo hhi (by omega)
  have hmax : (signedMax m).toInt = (Range.signed m).hi := by
    rw [signedMax_eq hm]
    exact toInt_ofInt_eq (by show -_ ≤ (2 : ℤ) ^ (m - 1) - 1; omega)
      (by show (2 : ℤ) ^ (m - 1) - 1 < _; omega) hm
  have hmin : (signedMin m).toInt = (Range.signed m).lo := by
    rw [signedMin_eq hm]
    exact toInt_ofInt_eq le_rfl (by show -(2 : ℤ) ^ (m - 1) < _; omega) hm
  have hr : (Range.signed m).lo ≤ (Range.signed m).hi := by
    show -(2 : ℤ) ^ (m - 1) ≤ 2 ^ (m - 1) - 1
    omega
  unfold signedSaturation
  rw [hx, hmax, hmin]
  by_cases hgt : (Range.signed m).hi < x
  · rw [if_pos hgt, Range.out_of_gt hgt, Range.clamp_of_gt hgt hr, signedMax_eq hm]
    rfl
  rw [if_neg hgt]
  by_cases hlt : x < (Range.signed m).lo
  · rw [if_pos hlt, Range.out_of_lt hlt, Range.clamp_of_lt hlt, signedMin_eq hm]
    rfl
  · rw [if_neg hlt, Range.out_of_mem (not_lt.mp hlt) (not_lt.mp hgt),
      Range.clamp_of_mem (not_lt.mp hlt) (not_lt.mp hgt), setWidth_ofInt hmn]
    rfl

end

/-! ## Shifts with rounding -/

section

variable [Platform] {s : State}

/-- The rounding mode in force. -/
def State.rounding (s : State) : Mode := roundingMode (Vcsr.vxrm.get s.vcsr)

/-- Setting `vxsat` does not change the rounding mode. -/
@[simp] theorem rounding_satIf (b : Bool) : (s.satIf b).rounding = s.rounding := by
  unfold State.satIf
  cases b with
  | false => rfl
  | true => exact congrArg roundingMode (Field.get_set_of_apart (by decide) _ _)

/-- The shift amount: the low bits of the operand. -/
theorem run_getShiftAmount {n p : ℕ} (b : BitVec n) (hp : 0 < p) (hn : p < n) :
    (getShiftAmount b (2 ^ p)).run s = .ok (b.toNat % 2 ^ p, s) := by
  have hassert : decide (0 < (2 ^ p).log2 ∧ (2 ^ p).log2 < n) = true := by
    rw [Nat.log2_two_pow]
    exact decide_eq_true ⟨hp, hn⟩
  unfold getShiftAmount
  rw [hassert, Exec.run_bind_of_ok rfl, Exec.run_pure]
  unfold slice
  rw [BitVec.extractLsb'_toNat, Nat.log2_two_pow, Nat.shiftRight_zero]

theorem run_getFixedRoundingIncr {w : ℕ} (v : BitVec w) (sh : ℕ) :
    (getFixedRoundingIncr v sh).run s
      = .ok (fixedRoundingIncr (Vcsr.vxrm.get s.vcsr) v sh, s) := rfl

/-- The increment as a vector. -/
theorem setWidth_increment {w k : ℕ} (v : ℤ) {sh : ℕ} (h : sh < w) (hk : 0 < k) :
    (fixedRoundingIncr (Vcsr.vxrm.get s.vcsr) (BitVec.ofInt w v) sh).setWidth k
      = BitVec.ofInt k (increment s.rounding v sh) := by
  apply eq_ofInt
  have hincr := toNat_fixedRoundingIncr (Vcsr.vxrm.get s.vcsr) v h
  have hlt := (fixedRoundingIncr (Vcsr.vxrm.get s.vcsr) (BitVec.ofInt w v) sh).isLt
  have hpow := Nat.one_lt_two_pow hk.ne'
  rw [BitVec.toNat_setWidth, Nat.mod_eq_of_lt (by omega), hincr]
  have hpow' : (1 : ℤ) < 2 ^ k := by exact_mod_cast hpow
  exact (Int.emod_eq_of_lt (by omega) (by omega)).symm

omit [Platform] in
/-- A logical shift. -/
theorem ushiftRight_eq_ofInt {w : ℕ} (a : BitVec w) (sh : ℕ) :
    a >>> sh = BitVec.ofInt w (a.toNat / 2 ^ sh : ℕ) := by
  apply eq_ofInt
  have hlt : a.toNat / 2 ^ sh < 2 ^ w := lt_of_le_of_lt (Nat.div_le_self _ _) a.isLt
  rw [BitVec.toNat_ushiftRight, Nat.shiftRight_eq_div_pow]
  exact (Int.emod_eq_of_lt (by positivity) (by exact_mod_cast hlt)).symm

/-- A logical shift with the increment. -/
theorem shift_add_increment {w : ℕ} (a : BitVec w) {sh : ℕ} (h : sh < w) :
    a >>> sh + (fixedRoundingIncr (Vcsr.vxrm.get s.vcsr) a sh).setWidth w
      = BitVec.ofInt w (rounded s.rounding a.toNat sh) := by
  have hincr := setWidth_increment (s := s) (k := w) a.toNat h (by omega)
  rw [ofInt_toNat] at hincr
  rw [hincr, ushiftRight_eq_ofInt, ← BitVec.ofInt_add]
  unfold rounded
  push_cast
  rfl

omit [Platform] in
/-- An arithmetic shift. -/
theorem shiftRightArith_eq_ofInt {m : ℕ} (a : BitVec m) {sh : ℕ} (h : sh ≤ m) :
    shiftRightArith a sh = BitVec.ofInt m (a.toInt / 2 ^ sh) := by
  unfold shiftRightArith BitVec.signExtend
  exact slice_shift_ofInt a.toInt (by omega)

/-- An arithmetic shift with the increment. -/
theorem arith_add_increment {m : ℕ} (a : BitVec m) {sh : ℕ} (h : sh < m) :
    shiftRightArith a sh + (fixedRoundingIncr (Vcsr.vxrm.get s.vcsr) a sh).setWidth m
      = BitVec.ofInt m (rounded s.rounding a.toInt sh) := by
  have hincr := setWidth_increment (s := s) (k := m) a.toInt h (by omega)
  rw [BitVec.ofInt_toInt] at hincr
  rw [hincr, shiftRightArith_eq_ofInt a h.le, ← BitVec.ofInt_add]
  rfl

variable {p n : ℕ}

/-- `VV_VSSRL`. -/
theorem run_vssrl (a : BitVec (2 ^ p)) (b : BitVec n) (hp : 0 < p) (hn : p < n) :
    (vssrl a b).run s
      = .ok (BitVec.ofInt (2 ^ p) (rounded s.rounding a.toNat (b.toNat % 2 ^ p)), s) := by
  unfold vssrl
  rw [Exec.run_bind_of_ok (run_getShiftAmount b hp hn),
    Exec.run_bind_of_ok (run_getFixedRoundingIncr _ _), Exec.run_pure,
    shift_add_increment a (Nat.mod_lt _ (Nat.two_pow_pos p))]

/-- `VV_VSSRA`. -/
theorem run_vssra (a : BitVec (2 ^ p)) (b : BitVec n) (hp : 0 < p) (hn : p < n) :
    (vssra a b).run s
      = .ok (BitVec.ofInt (2 ^ p) (rounded s.rounding a.toInt (b.toNat % 2 ^ p)), s) := by
  unfold vssra
  rw [Exec.run_bind_of_ok (run_getShiftAmount b hp hn),
    Exec.run_bind_of_ok (run_getFixedRoundingIncr _ _), Exec.run_pure,
    arith_add_increment a (Nat.mod_lt _ (Nat.two_pow_pos p))]

/-! ## Averages -/

/-- The average of a sum or a difference `d`. -/
theorem run_average {m : ℕ} (d : ℤ) (hm : 0 < m) :
    (average (BitVec.ofInt (m + 1) d)).run s
      = .ok (BitVec.ofInt m (rounded s.rounding d 1), s) := by
  unfold average
  rw [Exec.run_bind_of_ok (run_getFixedRoundingIncr _ _), Exec.run_pure,
    slice_shift_ofInt d (by omega), setWidth_increment d (by omega) hm, ← BitVec.ofInt_add]
  rfl

variable {m : ℕ} (a b : BitVec m)

omit [Platform] in
/-- A zero-extended operand. -/
theorem setWidth_succ (a : BitVec m) (k : ℕ) : a.setWidth (m + k) = BitVec.ofInt (m + k) a.toNat := by
  apply eq_ofInt
  have hlt : a.toNat < 2 ^ (m + k) :=
    lt_of_lt_of_le a.isLt (Nat.pow_le_pow_right (by omega) (by omega))
  rw [BitVec.toNat_setWidth, Nat.mod_eq_of_lt hlt]
  exact (Int.emod_eq_of_lt (by positivity) (by exact_mod_cast hlt)).symm

omit [Platform] in
theorem ofInt_sub (w : ℕ) (x y : ℤ) :
    BitVec.ofInt w (x - y) = BitVec.ofInt w x - BitVec.ofInt w y := by
  rw [sub_eq_add_neg, BitVec.ofInt_add, BitVec.ofInt_neg, BitVec.sub_eq_add_neg]

/-- `MVV_VAADDU`. -/
theorem run_vaaddu (hm : 0 < m) :
    (vaaddu a b).run s
      = .ok (BitVec.ofInt m (rounded s.rounding (a.toNat + b.toNat) 1), s) := by
  unfold vaaddu
  rw [setWidth_succ, setWidth_succ, ← BitVec.ofInt_add, run_average _ hm]

/-- `MVV_VAADD`. -/
theorem run_vaadd (hm : 0 < m) :
    (vaadd a b).run s
      = .ok (BitVec.ofInt m (rounded s.rounding (a.toInt + b.toInt) 1), s) := by
  unfold vaadd BitVec.signExtend
  rw [← BitVec.ofInt_add, run_average _ hm]

/-- `MVV_VASUBU`. -/
theorem run_vasubu (hm : 0 < m) :
    (vasubu a b).run s
      = .ok (BitVec.ofInt m (rounded s.rounding (a.toNat - b.toNat) 1), s) := by
  unfold vasubu
  rw [setWidth_succ, setWidth_succ, ← ofInt_sub, run_average _ hm]

/-- `MVV_VASUB`. -/
theorem run_vasub (hm : 0 < m) :
    (vasub a b).run s
      = .ok (BitVec.ofInt m (rounded s.rounding (a.toInt - b.toInt) 1), s) := by
  unfold vasub BitVec.signExtend
  rw [← ofInt_sub, run_average _ hm]

/-! ## Saturating operations -/

omit [Platform] in
/-- The bounds of a signed element. -/
theorem toInt_bounds (hm : 0 < m) (a : BitVec m) : -2 ^ (m - 1) ≤ a.toInt ∧ a.toInt < 2 ^ (m - 1) := by
  have hlt := BitVec.two_mul_toInt_lt (x := a)
  have hle := BitVec.le_two_mul_toInt (x := a)
  have hpow : (2 : ℤ) ^ m = 2 ^ (m - 1) * 2 := by
    rw [← pow_succ, Nat.sub_add_cancel hm]
  rw [hpow] at hlt hle
  omega

/-- `VV_VSADDU`. -/
theorem run_vsaddu :
    (vsaddu a b).run s
      = .ok (BitVec.ofInt m ((Range.unsigned m).clamp (a.toNat + b.toNat)),
          s.satIf ((Range.unsigned m).out (a.toNat + b.toNat))) := by
  have ha := a.isLt
  have hb := b.isLt
  unfold vsaddu
  rw [setWidth_succ, setWidth_succ, ← BitVec.ofInt_add]
  refine run_unsignedSaturation (by positivity) ?_ (by omega)
  rw [pow_succ]
  have ha' : (a.toNat : ℤ) < 2 ^ m := by exact_mod_cast ha
  have hb' : (b.toNat : ℤ) < 2 ^ m := by exact_mod_cast hb
  omega

/-- `VV_VSADD`. -/
theorem run_vsadd (hm : 0 < m) :
    (vsadd a b).run s
      = .ok (BitVec.ofInt m ((Range.signed m).clamp (a.toInt + b.toInt)),
          s.satIf ((Range.signed m).out (a.toInt + b.toInt))) := by
  obtain ⟨ha₀, ha₁⟩ := toInt_bounds hm a
  obtain ⟨hb₀, hb₁⟩ := toInt_bounds hm b
  have hpow : (2 : ℤ) ^ m = 2 ^ (m - 1) * 2 := by
    rw [← pow_succ, Nat.sub_add_cancel hm]
  unfold vsadd BitVec.signExtend
  rw [← BitVec.ofInt_add]
  refine run_signedSaturation hm ?_ ?_ (by omega)
  all_goals
    rw [Nat.add_sub_cancel, hpow]
    omega

/-- `VV_VSSUB`. -/
theorem run_vssub (hm : 0 < m) :
    (vssub a b).run s
      = .ok (BitVec.ofInt m ((Range.signed m).clamp (a.toInt - b.toInt)),
          s.satIf ((Range.signed m).out (a.toInt - b.toInt))) := by
  obtain ⟨ha₀, ha₁⟩ := toInt_bounds hm a
  obtain ⟨hb₀, hb₁⟩ := toInt_bounds hm b
  have hpow : (2 : ℤ) ^ m = 2 ^ (m - 1) * 2 := by
    rw [← pow_succ, Nat.sub_add_cancel hm]
  unfold vssub BitVec.signExtend
  rw [← ofInt_sub]
  refine run_signedSaturation hm ?_ ?_ (by omega)
  all_goals
    rw [Nat.add_sub_cancel, hpow]
    omega

/-- `VV_VSSUBU`: the result is clamped, and `vxsat` is left alone. -/
theorem run_vssubu :
    (vssubu a b).run s
      = .ok (BitVec.ofInt m ((Range.unsigned m).clamp (a.toNat - b.toNat)), s) := by
  have ha : (a.toNat : ℤ) < 2 ^ m := by exact_mod_cast a.isLt
  have hb : (b.toNat : ℤ) < 2 ^ m := by exact_mod_cast b.isLt
  unfold vssubu
  by_cases hlt : a.toNat < b.toNat
  · have hzero : 0#m = BitVec.ofInt m (Range.unsigned m).lo := by
      apply eq_ofInt
      rw [BitVec.toNat_zero]
      exact (Int.zero_emod _).symm
    rw [if_pos hlt, Range.clamp_of_lt (by show (a.toNat : ℤ) - b.toNat < 0; omega), hzero]
    rfl
  · rw [if_neg hlt, setWidth_succ, setWidth_succ, ← ofInt_sub]
    refine (run_unsignedSaturation (by omega) ?_ (by omega)).trans ?_
    · rw [pow_succ]
      omega
    · rw [Range.out_of_mem (by show (0 : ℤ) ≤ _; omega) (by show _ ≤ (2 : ℤ) ^ m - 1; omega)]
      rfl

omit [Platform] in
/-- The product of two signed numbers. -/
theorem mul_bounds (hm : 0 < m) : -2 ^ (m - 1) * 2 ^ (m - 1) ≤ a.toInt * b.toInt
    ∧ a.toInt * b.toInt ≤ 2 ^ (m - 1) * 2 ^ (m - 1) := by
  obtain ⟨ha₀, ha₁⟩ := toInt_bounds hm a
  obtain ⟨hb₀, hb₁⟩ := toInt_bounds hm b
  have ha : |a.toInt| ≤ 2 ^ (m - 1) := abs_le.mpr ⟨ha₀, ha₁.le⟩
  have hb : |b.toInt| ≤ 2 ^ (m - 1) := abs_le.mpr ⟨hb₀, hb₁.le⟩
  have hab := mul_le_mul ha hb (abs_nonneg _) (by positivity)
  rw [← abs_mul] at hab
  rw [neg_mul]
  exact abs_le.mp hab

omit [Platform] in
/-- The lowest bits of a sum. -/
theorem slice_add {w k : ℕ} (h : k ≤ w) (x y : BitVec w) :
    slice (x + y) 0 k = slice x 0 k + slice y 0 k := by
  unfold slice
  rw [← BitVec.setWidth_eq_extractLsb' h, ← BitVec.setWidth_eq_extractLsb' h,
    ← BitVec.setWidth_eq_extractLsb' h, BitVec.setWidth_add _ _ h]

omit [Platform] in
/-- The lowest bits of an integer. -/
theorem slice_ofInt {w k : ℕ} (x : ℤ) (h : k ≤ w) :
    slice (BitVec.ofInt w x) 0 k = BitVec.ofInt k x := by
  have hslice := slice_shift_ofInt (s := 0) x (show 0 + k ≤ w by omega)
  rwa [BitVec.ushiftRight_zero, pow_zero, Int.ediv_one] at hslice

/-- `VV_VSMUL`. -/
theorem run_vsmul (hm : 1 < m) :
    (vsmul a b).run s
      = .ok (BitVec.ofInt m ((Range.signed m).clamp
            (rounded s.rounding (a.toInt * b.toInt) (m - 1))),
          s.satIf ((Range.signed m).out (rounded s.rounding (a.toInt * b.toInt) (m - 1)))) := by
  obtain ⟨hlo, hhi⟩ := mul_bounds a b (by omega)
  obtain ⟨hi₀, hi₁⟩ := increment_bounds s.rounding (a.toInt * b.toInt) (m - 1)
  have hpow : (2 : ℤ) ^ m = 2 ^ (m - 1) * 2 := by
    rw [← pow_succ, Nat.sub_add_cancel (by omega)]
  have hpos : (2 : ℤ) ≤ 2 ^ (m - 1) := by
    calc (2 : ℤ) = 2 ^ 1 := (pow_one 2).symm
      _ ≤ 2 ^ (m - 1) := pow_le_pow_right₀ (by norm_num) (by omega)
  have hq₀ : -2 ^ (m - 1) ≤ a.toInt * b.toInt / 2 ^ (m - 1) :=
    Int.le_ediv_of_mul_le (by positivity) hlo
  have hq₁ : a.toInt * b.toInt / 2 ^ (m - 1) ≤ 2 ^ (m - 1) := by
    refine Int.ediv_le_of_le_mul (by positivity) hhi
  have hwide : slice (BitVec.ofInt (m * 2) (a.toInt * b.toInt) >>> (m - 1)
        + (fixedRoundingIncr (Vcsr.vxrm.get s.vcsr) (BitVec.ofInt (m * 2) (a.toInt * b.toInt))
            (m - 1)).setWidth (m * 2)) 0 (m + 1)
      = BitVec.ofInt (m + 1) (rounded s.rounding (a.toInt * b.toInt) (m - 1)) := by
    rw [setWidth_increment _ (by omega) (by omega), slice_add (by omega),
      slice_shift_ofInt _ (by omega), slice_ofInt _ (by omega), ← BitVec.ofInt_add]
    rfl
  unfold vsmul toBits
  rw [Exec.run_bind_of_ok (run_getFixedRoundingIncr _ _)]
  dsimp only
  rw [hwide]
  refine run_signedSaturation (by omega) ?_ ?_ (by omega)
  all_goals
    rw [Nat.add_sub_cancel, hpow]
    unfold rounded
    omega

variable {q k : ℕ}

omit [Platform] in
/-- The rounded quotient of an unsigned number. -/
theorem rounded_unsigned_bounds (μ : Mode) {o sh : ℕ} (c : BitVec o) (hsh : sh < o) :
    0 ≤ rounded μ c.toNat sh ∧ rounded μ c.toNat sh < 2 ^ o := by
  have hc : (c.toNat : ℤ) < 2 ^ o := by exact_mod_cast c.isLt
  by_cases hs : sh = 0
  · rw [hs, rounded_zero]
    exact ⟨by positivity, hc⟩
  · obtain ⟨hi₀, hi₁⟩ := increment_bounds μ c.toNat sh
    have hq₀ : 0 ≤ (c.toNat : ℤ) / 2 ^ sh := by positivity
    have hpow : (2 : ℤ) ^ o = 2 ^ (o - 1) * 2 := by
      rw [← pow_succ, Nat.sub_add_cancel (by omega)]
    have hle : (2 : ℤ) ≤ 2 ^ sh := by
      calc (2 : ℤ) = 2 ^ 1 := (pow_one 2).symm
        _ ≤ 2 ^ sh := pow_le_pow_right₀ (by norm_num) (by omega)
    have hpos : (0 : ℤ) < 2 ^ (o - 1) := by positivity
    have hq₁ : (c.toNat : ℤ) / 2 ^ sh < 2 ^ (o - 1) := by
      refine Int.ediv_lt_of_lt_mul (by positivity) ?_
      rw [hpow] at hc
      nlinarith
    unfold rounded
    omega

omit [Platform] in
/-- The rounded quotient of a signed number. -/
theorem rounded_signed_bounds (μ : Mode) {o sh : ℕ} (c : BitVec o) (hsh : sh < o) :
    -2 ^ (o - 1) ≤ rounded μ c.toInt sh ∧ rounded μ c.toInt sh < 2 ^ (o - 1) := by
  obtain ⟨hc₀, hc₁⟩ := toInt_bounds (by omega) c
  have hpos : (0 : ℤ) < 2 ^ sh := by positivity
  by_cases hs : sh = 0
  · rw [hs, rounded_zero]
    exact ⟨hc₀, hc₁⟩
  · obtain ⟨hi₀, hi₁⟩ := increment_bounds μ c.toInt sh
    have hpow : (2 : ℤ) ^ (o - 1) = 2 ^ (o - 2) * 2 := by
      rw [← pow_succ]
      congr 1
      omega
    have hle : (2 : ℤ) ≤ 2 ^ sh := by
      calc (2 : ℤ) = 2 ^ 1 := (pow_one 2).symm
        _ ≤ 2 ^ sh := pow_le_pow_right₀ (by norm_num) (by omega)
    have hhalf : (0 : ℤ) < 2 ^ (o - 2) := by positivity
    have hq₀ : -2 ^ (o - 2) ≤ c.toInt / 2 ^ sh := by
      refine Int.le_ediv_of_mul_le hpos ?_
      rw [hpow] at hc₀
      nlinarith
    have hq₁ : c.toInt / 2 ^ sh < 2 ^ (o - 2) := by
      refine Int.ediv_lt_of_lt_mul hpos ?_
      rw [hpow] at hc₁
      nlinarith
    unfold rounded
    omega

/-- `NV_VNCLIPU`. -/
theorem run_vnclipu (c : BitVec (2 ^ q)) (b : BitVec n) (hq : 0 < q) (hn : q < n)
    (hm : m ≤ 2 ^ q) :
    (vnclipu m c b).run s
      = .ok (BitVec.ofInt m ((Range.unsigned m).clamp
            (rounded s.rounding c.toNat (b.toNat % 2 ^ q))),
          s.satIf ((Range.unsigned m).out (rounded s.rounding c.toNat (b.toNat % 2 ^ q)))) := by
  have hsh : b.toNat % 2 ^ q < 2 ^ q := Nat.mod_lt _ (Nat.two_pow_pos q)
  obtain ⟨hlo, hhi⟩ := rounded_unsigned_bounds s.rounding c hsh
  unfold vnclipu
  rw [Exec.run_bind_of_ok (run_getShiftAmount b hq hn),
    Exec.run_bind_of_ok (run_getFixedRoundingIncr _ _), shift_add_increment c hsh]
  exact run_unsignedSaturation hlo hhi hm

/-- `NV_VNCLIP`. -/
theorem run_vnclip (c : BitVec (2 ^ q)) (b : BitVec n) (hq : 0 < q) (hn : q < n)
    (hm : m * 2 = 2 ^ q) :
    (vnclip m c b).run s
      = .ok (BitVec.ofInt m ((Range.signed m).clamp
            (rounded s.rounding c.toInt (b.toNat % 2 ^ q))),
          s.satIf ((Range.signed m).out (rounded s.rounding c.toInt (b.toNat % 2 ^ q)))) := by
  have hpos := Nat.two_pow_pos q
  have hsh : b.toNat % 2 ^ q < 2 ^ q := Nat.mod_lt _ hpos
  obtain ⟨hlo, hhi⟩ := rounded_signed_bounds s.rounding c hsh
  have hincr := setWidth_increment (s := s) (k := 2 ^ q) c.toInt hsh hpos
  rw [BitVec.ofInt_toInt] at hincr
  have hwide : slice (c.signExtend (m * 4) >>> (b.toNat % 2 ^ q)) 0 (2 ^ q)
      = BitVec.ofInt (2 ^ q) (c.toInt / 2 ^ (b.toNat % 2 ^ q)) := by
    unfold BitVec.signExtend
    exact slice_shift_ofInt c.toInt (by omega)
  unfold vnclip
  rw [Exec.run_bind_of_ok (run_getShiftAmount b hq hn),
    Exec.run_bind_of_ok (run_getFixedRoundingIncr _ _), hwide, hincr, ← BitVec.ofInt_add]
  exact run_signedSaturation (by omega) hlo hhi (by omega)

/-! ## Against exact rounding -/

/-- `k` is the exact quotient `v / 2 ^ sh`, rounded in the mode in force. -/
def State.RoundsTo (s : State) (v : ℤ) (sh : ℕ) (k : ℤ) : Prop :=
  Rounds s.rounding ((v : ℚ) / 2 ^ sh) k

theorem roundsTo_rounded (v : ℤ) (sh : ℕ) : s.RoundsTo v sh (rounded s.rounding v sh) :=
  rounds_rounded _ v sh

omit [Platform] in
/-- The average of two numbers lies between them. -/
theorem rounded_average_bounds (μ : Mode) {lo hi x y : ℤ} (hx₀ : lo ≤ x) (hx₁ : x ≤ hi)
    (hy₀ : lo ≤ y) (hy₁ : y ≤ hi) : lo ≤ rounded μ (x + y) 1 ∧ rounded μ (x + y) 1 ≤ hi := by
  obtain ⟨hi₀, hi₁⟩ := increment_bounds μ (x + y) 1
  have heven : increment μ (2 * hi) 1 = 0 := by
    unfold increment
    rw [if_neg one_ne_zero]
    cases μ with
    | rnu => dsimp only; rw [Nat.sub_self, pow_zero]; omega
    | rne => dsimp only; rw [Nat.sub_self, pow_zero, if_neg (by omega)]
    | rdn => rfl
    | rod => dsimp only; rw [pow_one, if_neg (by omega)]
  unfold rounded
  rw [pow_one]
  by_cases htop : x + y = 2 * hi
  · rw [htop, heven]
    omega
  · omega

/-- **Fixed-point rounding.**  The operations on elements round the exact value: the shifts and
the averages modulo the width of an element, the other operations before they saturate.  The
averages of sums fit. -/
theorem fixed_point_rounding {vsew : BitVec 3} {p : ℕ} (hp : sewPow vsew = some p) (s : State)
    (a b : BitVec (2 ^ p)) (c : BitVec (2 ^ (p + 1))) :
    (∃ k, s.RoundsTo a.toNat (b.toNat % 2 ^ p) k
        ∧ (vssrl a b).run s = .ok (BitVec.ofInt (2 ^ p) k, s))
    ∧ (∃ k, s.RoundsTo a.toInt (b.toNat % 2 ^ p) k
        ∧ (vssra a b).run s = .ok (BitVec.ofInt (2 ^ p) k, s))
    ∧ (∃ k, s.RoundsTo (a.toNat + b.toNat) 1 k ∧ (Range.unsigned (2 ^ p)).out k = false
        ∧ (vaaddu a b).run s = .ok (BitVec.ofInt (2 ^ p) k, s))
    ∧ (∃ k, s.RoundsTo (a.toInt + b.toInt) 1 k ∧ (Range.signed (2 ^ p)).out k = false
        ∧ (vaadd a b).run s = .ok (BitVec.ofInt (2 ^ p) k, s))
    ∧ (∃ k, s.RoundsTo (a.toNat - b.toNat) 1 k
        ∧ (vasubu a b).run s = .ok (BitVec.ofInt (2 ^ p) k, s))
    ∧ (∃ k, s.RoundsTo (a.toInt - b.toInt) 1 k
        ∧ (vasub a b).run s = .ok (BitVec.ofInt (2 ^ p) k, s))
    ∧ (∃ k, s.RoundsTo (a.toInt * b.toInt) (2 ^ p - 1) k ∧ (vsmul a b).run s
        = .ok (BitVec.ofInt (2 ^ p) ((Range.signed (2 ^ p)).clamp k),
            s.satIf ((Range.signed (2 ^ p)).out k)))
    ∧ (∃ k, s.RoundsTo c.toNat (b.toNat % 2 ^ (p + 1)) k ∧ (vnclipu (2 ^ p) c b).run s
        = .ok (BitVec.ofInt (2 ^ p) ((Range.unsigned (2 ^ p)).clamp k),
            s.satIf ((Range.unsigned (2 ^ p)).out k)))
    ∧ (∃ k, s.RoundsTo c.toInt (b.toNat % 2 ^ (p + 1)) k ∧ (vnclip (2 ^ p) c b).run s
        = .ok (BitVec.ofInt (2 ^ p) ((Range.signed (2 ^ p)).clamp k),
            s.satIf ((Range.signed (2 ^ p)).out k))) := by
  obtain ⟨hp₃, hp₆⟩ := sewPow_bounds hp
  have hm : 1 < 2 ^ p := Nat.one_lt_two_pow (by omega)
  have hlt : p + 1 < 2 ^ p := by
    interval_cases p <;> decide
  have hdouble : 2 ^ p * 2 = 2 ^ (p + 1) := (pow_succ 2 p).symm
  refine ⟨?_, ?_, ?_, ?_, ?_, ?_, ?_, ?_, ?_⟩
  · exact ⟨_, roundsTo_rounded _ _, run_vssrl a b (by omega) (by omega)⟩
  · exact ⟨_, roundsTo_rounded _ _, run_vssra a b (by omega) (by omega)⟩
  · have ha : (a.toNat : ℤ) < 2 ^ 2 ^ p := by exact_mod_cast a.isLt
    have hb : (b.toNat : ℤ) < 2 ^ 2 ^ p := by exact_mod_cast b.isLt
    have ha₀ : (0 : ℤ) ≤ a.toNat := by positivity
    have hb₀ : (0 : ℤ) ≤ b.toNat := by positivity
    obtain ⟨hlo, hhi⟩ := rounded_average_bounds s.rounding ha₀ (Int.le_sub_one_of_lt ha) hb₀
      (Int.le_sub_one_of_lt hb)
    exact ⟨_, roundsTo_rounded _ _, Range.out_of_mem hlo hhi, run_vaaddu a b (by omega)⟩
  · obtain ⟨ha₀, ha₁⟩ := toInt_bounds (by omega) a
    obtain ⟨hb₀, hb₁⟩ := toInt_bounds (by omega) b
    obtain ⟨hlo, hhi⟩ := rounded_average_bounds s.rounding ha₀ (Int.le_sub_one_of_lt ha₁) hb₀
      (Int.le_sub_one_of_lt hb₁)
    exact ⟨_, roundsTo_rounded _ _, Range.out_of_mem hlo hhi, run_vaadd a b (by omega)⟩
  · exact ⟨_, roundsTo_rounded _ _, run_vasubu a b (by omega)⟩
  · exact ⟨_, roundsTo_rounded _ _, run_vasub a b (by omega)⟩
  · exact ⟨_, roundsTo_rounded _ _, run_vsmul a b hm⟩
  · exact ⟨_, roundsTo_rounded _ _, run_vnclipu c b (by omega) hlt (by omega)⟩
  · exact ⟨_, roundsTo_rounded _ _, run_vnclip c b (by omega) hlt hdouble⟩

end

/-- Elements of eight bits, in the state after the machine has been built. -/
theorem fixed_point_rounding_e8 :
    letI := rv64Pmp 16 (by decide)
    ∃ k, (State.zero fun _ => 0#8).RoundsTo 0x6 2 k
      ∧ (vssrl 0x6#8 0x2#8).run (State.zero fun _ => 0#8) = .ok (BitVec.ofInt 8 k,
          State.zero fun _ => 0#8) := by
  let := rv64Pmp 16 (by decide)
  exact (fixed_point_rounding (show sewPow 0b000#3 = some 3 from rfl) (State.zero fun _ => 0#8) 0x6#8 0x2#8
    0#16).1

end SailRiscv
