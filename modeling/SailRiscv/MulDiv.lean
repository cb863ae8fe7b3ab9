/-
# Multiplication and division

The laws of the integer products, quotients and remainders, at any width, and the instructions
that compute them: the scalar ones at the register width, the forms for words, and the vector ones
at the element width.
-/
import SailRiscv.Saturation

namespace SailRiscv

open Bits Platform

/-! ## Values of operands -/

section

variable {n : ℕ}

/-- A number is the value of an operand of `n` bits. -/
def OperandRange (signed : Bool) (n : ℕ) (x : ℤ) : Prop :=
  if signed then -2 ^ (n - 1) ≤ x ∧ x < 2 ^ (n - 1) else 0 ≤ x ∧ x < 2 ^ n

/-- The value of an operand is in its range. -/
theorem operandRange (signed : Bool) (hn : 0 < n) (v : BitVec n) :
    OperandRange signed n (operandInt signed v) := by
  rcases signed
  · have hlt := v.isLt
    show 0 ≤ (v.toNat : ℤ) ∧ (v.toNat : ℤ) < 2 ^ n
    exact ⟨by omega, by exact_mod_cast hlt⟩
  · have hlo := BitVec.le_two_mul_toInt (x := v)
    have hhi := BitVec.two_mul_toInt_lt (x := v)
    show -2 ^ (n - 1) ≤ v.toInt ∧ v.toInt < 2 ^ (n - 1)
    have hpow : (2 : ℤ) ^ n = 2 * 2 ^ (n - 1) := by
      rw [← pow_succ', Nat.sub_add_cancel hn]
    omega

/-- A number in the range is read back from its bits. -/
theorem operandInt_ofInt {signed : Bool} (hn : 0 < n) {x : ℤ} (h : OperandRange signed n x) :
    operandInt signed (BitVec.ofInt n x) = x := by
  rcases signed
  · have hpos : (0 : ℤ) ≤ x := h.1
    have hlt : x < 2 ^ n := h.2
    show ((BitVec.ofInt n x).toNat : ℤ) = x
    rw [BitVec.toNat_ofInt, Int.emod_eq_of_lt hpos (by exact_mod_cast hlt), Int.toNat_of_nonneg hpos]
  · exact BitVec.toInt_ofInt_eq_self hn h.1 h.2

/-- The bits of the value of an operand. -/
theorem ofInt_operandInt (signed : Bool) (v : BitVec n) :
    BitVec.ofInt n (operandInt signed v) = v := by
  rcases signed
  · show BitVec.ofInt n (v.toNat : ℤ) = v
    rw [BitVec.ofInt_natCast, BitVec.ofNat_toNat, BitVec.setWidth_eq]
  · exact BitVec.ofInt_toInt

/-- The bits of minus one. -/
theorem ofInt_neg_one (hn : 0 < n) : BitVec.ofInt n (-1) = BitVec.allOnes n := by
  have hones : (BitVec.allOnes n).toInt = -1 := by
    rw [BitVec.toInt_allOnes, if_pos hn]
  rw [← hones, BitVec.ofInt_toInt]

/-- Only zero has the value zero. -/
theorem operandInt_eq_zero (signed : Bool) (v : BitVec n) : operandInt signed v = 0 ↔ v = 0#n := by
  constructor
  · intro h
    rw [← ofInt_operandInt signed v, h]
    rfl
  · rintro rfl
    rcases signed
    · exact congrArg Nat.cast BitVec.toNat_zero
    · exact BitVec.toInt_zero

end

/-! ## Products -/

/-- A range of the bits of an integer. -/
theorem extractLsb'_ofInt {w : ℕ} (x : ℤ) {i n : ℕ} (h : i + n ≤ w) :
    (BitVec.ofInt w x).extractLsb' i n = BitVec.ofInt n (x >>> i) := by
  have hrange : x % 2 ^ w / 2 ^ i % 2 ^ n = x / 2 ^ i % 2 ^ n := by
    have hw : (2 : ℤ) ^ w = 2 ^ i * (2 ^ n * 2 ^ (w - i - n)) := by
      rw [← pow_add, ← pow_add]
      congr 1
      omega
    have hmod : x % 2 ^ w = x + 2 ^ i * (2 ^ n * -(2 ^ (w - i - n) * (x / 2 ^ w))) := by
      rw [Int.emod_def, hw]
      ring
    rw [hmod, Int.add_mul_ediv_left _ _ (by positivity), Int.add_mul_emod_self_left]
  have hnonneg : 0 ≤ x % 2 ^ w := Int.emod_nonneg _ (by positivity)
  apply BitVec.eq_of_toNat_eq
  rw [BitVec.extractLsb'_toNat, BitVec.toNat_ofInt, BitVec.toNat_ofInt, Nat.shiftRight_eq_div_pow,
    Int.shiftRight_eq_div_pow]
  push_cast
  zify
  rw [Int.toNat_of_nonneg hnonneg, Int.toNat_of_nonneg (Int.emod_nonneg _ (by positivity)), hrange]

section

variable {n : ℕ}

/-- The product of `MUL` at any width. -/
def mulResult (op : MulOp) (rs1Val rs2Val : BitVec n) : BitVec n :=
  let wide := BitVec.ofInt (2 * n)
    (operandInt op.signedRs1 rs1Val * operandInt op.signedRs2 rs2Val)
  if op.high then wide.extractLsb' n n else wide.extractLsb' 0 n

/-- The high half of a wide product. -/
theorem mulResult_high (s₁ s₂ : Bool) (a b : BitVec n) :
    mulResult ⟨true, s₁, s₂⟩ a b = BitVec.ofInt n ((operandInt s₁ a * operandInt s₂ b) >>> n) := by
  show (BitVec.ofInt (2 * n) (operandInt s₁ a * operandInt s₂ b)).extractLsb' n n = _
  exact extractLsb'_ofInt _ (by omega)

/-- The low half of a wide product does not depend on the signedness. -/
theorem mulResult_low (t₁ t₂ : Bool) (a b : BitVec n) : mulResult ⟨false, t₁, t₂⟩ a b = a * b := by
  show (BitVec.ofInt (2 * n) (operandInt t₁ a * operandInt t₂ b)).extractLsb' 0 n = a * b
  rw [extractLsb'_ofInt _ (by omega), Int.shiftRight_zero, BitVec.ofInt_mul, ofInt_operandInt,
    ofInt_operandInt]

/-- The exact product of two operands fits into twice the width. -/
theorem operandRange_mul (s₁ s₂ : Bool) (hn : 0 < n) (a b : BitVec n) :
    OperandRange (s₁ || s₂) (n + n) (operandInt s₁ a * operandInt s₂ b) := by
  have ha := operandRange s₁ hn a
  have hb := operandRange s₂ hn b
  have hwidth : (2 : ℤ) ^ n = 2 * 2 ^ (n - 1) := by
    rw [← pow_succ', Nat.sub_add_cancel hn]
  have hsigned : (2 : ℤ) ^ (n + n - 1) = 2 * (2 ^ (n - 1) * 2 ^ (n - 1)) := by
    rw [← pow_add, ← pow_succ']
    congr 1
    omega
  have hunsigned : (2 : ℤ) ^ (n + n) = 2 * 2 ^ (n - 1) * (2 * 2 ^ (n - 1)) := by
    rw [← hwidth, pow_add]
  rcases s₁ <;> rcases s₂
  all_goals
    simp only [OperandRange, Bool.true_or, Bool.or_true, Bool.or_self,
      Bool.false_eq_true, if_false, if_true, hsigned, hunsigned, hwidth] at ha hb ⊢
    obtain ⟨halo, hahi⟩ := ha
    obtain ⟨hblo, hbhi⟩ := hb
    constructor <;> nlinarith

/-- The two halves of a product are the exact product. -/
theorem mulResult_append (s₁ s₂ t₁ t₂ : Bool) (hn : 0 < n) (a b : BitVec n) :
    operandInt (s₁ || s₂) (mulResult ⟨true, s₁, s₂⟩ a b ++ mulResult ⟨false, t₁, t₂⟩ a b)
      = operandInt s₁ a * operandInt s₂ b := by
  have hlow : mulResult ⟨false, t₁, t₂⟩ a b
      = (BitVec.ofInt (n + n) (operandInt s₁ a * operandInt s₂ b)).extractLsb' 0 n := by
    rw [extractLsb'_ofInt _ (by omega), mulResult_low, Int.shiftRight_zero, BitVec.ofInt_mul,
      ofInt_operandInt, ofInt_operandInt]
  have hhigh : mulResult ⟨true, s₁, s₂⟩ a b
      = (BitVec.ofInt (n + n) (operandInt s₁ a * operandInt s₂ b)).extractLsb' n n := by
    rw [extractLsb'_ofInt _ (le_refl _), mulResult_high]
  rw [hlow, hhigh, BitVec.extractLsb'_append_extractLsb']
  exact operandInt_ofInt (by omega) (operandRange_mul s₁ s₂ hn a b)

end

/-! ## Quotients and remainders -/

section

variable {n : ℕ}

/-- What the quotient `q` and the remainder `r` of `a` and `b` satisfy. -/
structure DivisionLaw (signed : Bool) (a b q r : BitVec n) : Prop where
  identity : a = q * b + r
  magnitude : b ≠ 0#n → |operandInt signed r| < |operandInt signed b|
  sign : b ≠ 0#n → (0 ≤ operandInt signed a → 0 ≤ operandInt signed r)
    ∧ (operandInt signed a ≤ 0 → operandInt signed r ≤ 0)
  exact : b ≠ 0#n → ¬ (signed = true ∧ a = BitVec.intMin n ∧ b = BitVec.allOnes n) →
    operandInt signed a = operandInt signed q * operandInt signed b + operandInt signed r
  byZero : b = 0#n → q = BitVec.allOnes n ∧ r = a
  overflow : signed = true → a = BitVec.intMin n → b = BitVec.allOnes n →
    q = BitVec.intMin n ∧ r = 0#n

/-- The remainder of the division of two operands fits into their width. -/
theorem operandRange_tmod {signed : Bool} {x y : ℤ} (hx : OperandRange signed n x)
    (hy : OperandRange signed n y) (h0 : y ≠ 0) : OperandRange signed n (x.tmod y) := by
  have hnat : (x.tmod y).natAbs < y.natAbs := by
    rw [Int.natAbs_tmod]
    exact Nat.mod_lt _ (by omega)
  rcases signed
  · obtain ⟨hylo, hyhi⟩ : 0 ≤ y ∧ y < 2 ^ n := hy
    have hpos : 0 ≤ x.tmod y := Int.tmod_nonneg y hx.1
    exact ⟨hpos, by omega⟩
  · obtain ⟨hylo, hyhi⟩ : -2 ^ (n - 1) ≤ y ∧ y < 2 ^ (n - 1) := hy
    show -2 ^ (n - 1) ≤ x.tmod y ∧ x.tmod y < 2 ^ (n - 1)
    omega

/-- The quotient of two signed numbers fits into their width, but for one pair. -/
theorem tdiv_range {X x y : ℤ} (hlo : -X ≤ x) (hhi : x < X) (h0 : y ≠ 0) :
    (-X ≤ x.tdiv y ∧ x.tdiv y < X) ∨ (x = -X ∧ y = -1 ∧ x.tdiv y = X) := by
  have hle := Int.natAbs_tdiv_le_natAbs x y
  by_cases hone : y = 1
  · subst hone
    rw [Int.tdiv_one]
    exact Or.inl ⟨hlo, hhi⟩
  by_cases hneg : y = -1
  · subst hneg
    rw [Int.tdiv_neg, Int.tdiv_one]
    by_cases hmin : x = -X
    · exact Or.inr ⟨hmin, rfl, by omega⟩
    · exact Or.inl ⟨by omega, by omega⟩
  · have hhalf : (x.tdiv y).natAbs ≤ x.natAbs / 2 := by
      rw [Int.natAbs_tdiv]
      exact Nat.div_le_div_left (by omega) (by decide)
    exact Or.inl (by omega)

/-- The quotient as `DIV` has it before the check for the overflow. -/
def quotient (signed : Bool) (a b : BitVec n) : ℤ :=
  if operandInt signed b = 0 then -1 else (operandInt signed a).tdiv (operandInt signed b)

/-- The check for the overflow does not change the bits of the quotient. -/
theorem divResult_eq (signed : Bool) (hn : 0 < n) (a b : BitVec n) :
    divResult signed a b = BitVec.ofInt n (quotient signed a b) := by
  show BitVec.ofInt n (if signed = true ∧ quotient signed a b > 2 ^ (n - 1) - 1
    then 0 - 2 ^ (n - 1) else quotient signed a b) = _
  by_cases hover : signed = true ∧ quotient signed a b > 2 ^ (n - 1) - 1
  · obtain ⟨rfl, hlarge⟩ := hover
    have hX : (0 : ℤ) < 2 ^ (n - 1) := by positivity
    have hq : quotient true a b = 2 ^ (n - 1) := by
      unfold quotient at hlarge ⊢
      by_cases h0 : operandInt true b = 0
      · rw [if_pos h0] at hlarge
        omega
      · rw [if_neg h0] at hlarge ⊢
        obtain ⟨halo, hahi⟩ := operandRange true hn a
        rcases tdiv_range halo hahi h0 with h | ⟨-, -, h⟩
        · omega
        · exact h
    rw [if_pos ⟨rfl, hlarge⟩, hq]
    have hpow : (0 : ℤ) - 2 ^ (n - 1) = 2 ^ (n - 1) + -(2 ^ n) := by
      have h2 : (2 : ℤ) ^ n = 2 * 2 ^ (n - 1) := by
        rw [← pow_succ', Nat.sub_add_cancel hn]
      omega
    have hzero : BitVec.ofInt n (-(2 ^ n)) = 0#n := by
      apply BitVec.eq_of_toNat_eq
      rw [BitVec.toNat_ofInt, BitVec.toNat_zero]
      have hmod : (-(2 ^ n) : ℤ) % ((2 ^ n : ℕ) : ℤ) = 0 := by
        push_cast
        exact Int.emod_eq_zero_of_dvd (Dvd.intro (-1) (by ring))
      rw [hmod]
      rfl
    rw [hpow, BitVec.ofInt_add, hzero, BitVec.add_zero]
  · rw [if_neg hover]

/-- **The quotient and the remainder satisfy the law.** -/
theorem divisionLaw (signed : Bool) (hn : 0 < n) (a b : BitVec n) :
    DivisionLaw signed a b (divResult signed a b) (remResult signed a b) := by
  have hzero : operandInt signed b = 0 ↔ b = 0#n := operandInt_eq_zero signed b
  have hrem (hb : b ≠ 0#n) : operandInt signed (remResult signed a b)
      = (operandInt signed a).tmod (operandInt signed b) := by
    have h0 : operandInt signed b ≠ 0 := fun h => hb (hzero.mp h)
    show operandInt signed (BitVec.ofInt n (if operandInt signed b = 0 then _ else _)) = _
    rw [if_neg h0]
    exact operandInt_ofInt hn (operandRange_tmod (operandRange signed hn a)
      (operandRange signed hn b) h0)
  refine ⟨?_, ?_, ?_, ?_, ?_, ?_⟩
  · rw [divResult_eq signed hn a b]
    show a = BitVec.ofInt n (quotient signed a b) * b
      + BitVec.ofInt n (if operandInt signed b = 0 then operandInt signed a
        else (operandInt signed a).tmod (operandInt signed b))
    by_cases h0 : operandInt signed b = 0
    · rw [if_pos h0, ofInt_operandInt, hzero.mp h0, BitVec.mul_zero, BitVec.zero_add]
    · have hexact := Int.tdiv_mul_add_tmod (operandInt signed a) (operandInt signed b)
      have hbits := congrArg (BitVec.ofInt n) hexact
      rw [BitVec.ofInt_add, BitVec.ofInt_mul, ofInt_operandInt, ofInt_operandInt] at hbits
      unfold quotient
      rw [if_neg h0, if_neg h0, hbits]
  · intro hb
    have h0 : operandInt signed b ≠ 0 := fun h => hb (hzero.mp h)
    have hlt : ((operandInt signed a).tmod (operandInt signed b)).natAbs
        < (operandInt signed b).natAbs := by
      rw [Int.natAbs_tmod]
      exact Nat.mod_lt _ (by omega)
    rw [hrem hb, Int.abs_eq_natAbs, Int.abs_eq_natAbs]
    exact_mod_cast hlt
  · intro hb
    rw [hrem hb]
    constructor
    · exact fun h => Int.tmod_nonneg _ h
    · intro h
      have hneg := Int.tmod_nonneg (operandInt signed b) (neg_nonneg.mpr h)
      rw [Int.neg_tmod] at hneg
      omega
  · intro hb hover
    have h0 : operandInt signed b ≠ 0 := fun h => hb (hzero.mp h)
    have hq : operandInt signed (divResult signed a b)
        = (operandInt signed a).tdiv (operandInt signed b) := by
      have hrange : OperandRange signed n (quotient signed a b) := by
        unfold quotient
        rw [if_neg h0]
        rcases signed
        · obtain ⟨halo, hahi⟩ : 0 ≤ operandInt false a ∧ _ := operandRange false hn a
          have hblo : 0 ≤ operandInt false b := (operandRange false hn b).1
          have hle := Int.natAbs_tdiv_le_natAbs (operandInt false a) (operandInt false b)
          have hpos : 0 ≤ (operandInt false a).tdiv (operandInt false b) :=
            Int.tdiv_nonneg halo hblo
          exact ⟨hpos, by omega⟩
        · obtain ⟨halo, hahi⟩ := operandRange true hn a
          rcases tdiv_range halo hahi h0 with h | ⟨hx, hy, -⟩
          · exact h
          · refine absurd ⟨rfl, ?_, ?_⟩ hover
            · apply BitVec.eq_of_toInt_eq
              rw [BitVec.toInt_intMin_of_pos hn]
              exact hx
            · apply BitVec.eq_of_toInt_eq
              rw [BitVec.toInt_allOnes, if_pos hn]
              exact hy
      rw [divResult_eq signed hn a b, operandInt_ofInt hn hrange]
      unfold quotient
      rw [if_neg h0]
    rw [hq, hrem hb]
    exact (Int.tdiv_mul_add_tmod _ _).symm
  · intro hb
    have h0 : operandInt signed b = 0 := hzero.mpr hb
    constructor
    · rw [divResult_eq signed hn a b]
      unfold quotient
      rw [if_pos h0]
      exact ofInt_neg_one hn
    · show BitVec.ofInt n (if operandInt signed b = 0 then operandInt signed a else _) = a
      rw [if_pos h0, ofInt_operandInt]
  · rintro rfl rfl rfl
    have hmin : operandInt true (BitVec.intMin n) = -2 ^ (n - 1) := BitVec.toInt_intMin_of_pos hn
    have hones : operandInt true (BitVec.allOnes n) = -1 := by
      show (BitVec.allOnes n).toInt = -1
      rw [BitVec.toInt_allOnes, if_pos hn]
    have hq : quotient true (BitVec.intMin n) (BitVec.allOnes n) = 2 ^ (n - 1) := by
      unfold quotient
      rw [hmin, hones, if_neg (by decide), Int.tdiv_neg, Int.tdiv_one, neg_neg]
    constructor
    · show BitVec.ofInt n (if true = true ∧ quotient true _ _ > 2 ^ (n - 1) - 1
        then 0 - 2 ^ (n - 1) else _) = BitVec.intMin n
      rw [hq, if_pos ⟨rfl, by omega⟩, zero_sub, ← hmin, ofInt_operandInt]
    · show BitVec.ofInt n (if operandInt true (BitVec.allOnes n) = 0 then _
        else (operandInt true (BitVec.intMin n)).tmod (operandInt true (BitVec.allOnes n))) = 0#n
      rw [hmin, hones, if_neg (by decide), Int.tmod_neg, Int.tmod_one]
      rfl

end

/-! ## Vector elements -/

section

variable {m : ℕ}

/-- The scalar definition, at the width of the element, for an operation of `MVXTYPE`. -/
def Mvxfunct6.scalarResult (f : Mvxfunct6) (a b : BitVec m) : Option (BitVec m) :=
  match f with
  | .MVX_VMUL => some (mulResult ⟨false, true, true⟩ a b)
  | .MVX_VMULH => some (mulResult ⟨true, true, true⟩ a b)
  | .MVX_VMULHU => some (mulResult ⟨true, false, false⟩ a b)
  | .MVX_VMULHSU => some (mulResult ⟨true, true, false⟩ a b)
  | .MVX_VDIVU => some (divResult false a b)
  | .MVX_VDIV => some (divResult true a b)
  | .MVX_VREMU => some (remResult false a b)
  | .MVX_VREM => some (remResult true a b)
  | _ => none

/-- `get_slice_int` of the upper half of a product. -/
theorem getSliceInt_mul_high (s₁ s₂ : Bool) (a b : BitVec m) :
    getSliceInt m (operandInt s₁ a * operandInt s₂ b) m = mulResult ⟨true, s₁, s₂⟩ a b :=
  (mulResult_high s₁ s₂ a b).symm

/-- `get_slice_int` of the lower half of a product. -/
theorem getSliceInt_mul_low (s₁ s₂ : Bool) (a b : BitVec m) :
    getSliceInt m (operandInt s₁ a * operandInt s₂ b) 0 = mulResult ⟨false, s₁, s₂⟩ a b := by
  unfold getSliceInt
  rw [mulResult_low, Int.shiftRight_zero, BitVec.ofInt_mul, ofInt_operandInt, ofInt_operandInt]

/-- The vector quotient of signed elements. -/
theorem vdiv_eq (a b : BitVec m) : vdiv a b = divResult true a b := by
  show BitVec.ofInt m (if quotient true a b > 2 ^ (m - 1) - 1 then 0 - 2 ^ (m - 1)
    else quotient true a b) = BitVec.ofInt m (if true = true ∧ quotient true a b > 2 ^ (m - 1) - 1
    then 0 - 2 ^ (m - 1) else quotient true a b)
  simp

/-- The vector quotient of unsigned elements. -/
theorem vdivu_eq (a b : BitVec m) : vdivu a b = divResult false a b := by
  unfold vdivu divResult toBits operandInt
  simp

/-- The vector remainder of unsigned elements. -/
theorem vremu_eq (a b : BitVec m) : vremu a b = remResult false a b := by
  unfold vremu remResult toBits operandInt
  simp

/-- The elements that have a scalar definition are computed as it says. -/
theorem Mvxfunct6.elem_of_scalarResult {f : Mvxfunct6} {μ : Rounding.Mode} {a b v : BitVec m}
    (h : f.scalarResult a b = some v) : (f.elem μ a b).1 = v := by
  cases f with
  | MVX_VMUL => exact (getSliceInt_mul_low true true a b).trans (Option.some.inj h)
  | MVX_VMULH => exact (getSliceInt_mul_high true true a b).trans (Option.some.inj h)
  | MVX_VMULHU => exact (getSliceInt_mul_high false false a b).trans (Option.some.inj h)
  | MVX_VMULHSU => exact (getSliceInt_mul_high true false a b).trans (Option.some.inj h)
  | MVX_VDIVU => exact (vdivu_eq a b).trans (Option.some.inj h)
  | MVX_VDIV => exact (vdiv_eq a b).trans (Option.some.inj h)
  | MVX_VREMU => exact (vremu_eq a b).trans (Option.some.inj h)
  | MVX_VREM => exact Option.some.inj h
  | _ => cases h

end

/-! ## The instructions -/

section

variable [Platform] (s : State) (rs2 rs1 rd : Regidx)

/-- An instruction retires and writes `v` to `rd`. -/
def Writes (inst : MulInst) (v : Xlenbits) : Prop :=
  inst.execute.run s = .ok (.RETIRE_SUCCESS, s.setX rd v)

/-- The instructions at the register width compute the exact product, and a quotient and a
remainder that satisfy the law. -/
structure ScalarLaw (a b : Xlenbits) : Prop where
  product : ∀ signed₁ signed₂ low₁ low₂ : Bool, ∃ hi lo : Xlenbits,
    Writes s rd (.MUL rs2 rs1 rd ⟨true, signed₁, signed₂⟩) hi
    ∧ Writes s rd (.MUL rs2 rs1 rd ⟨false, low₁, low₂⟩) lo
    ∧ operandInt (signed₁ || signed₂) (hi ++ lo) = operandInt signed₁ a * operandInt signed₂ b
  division : ∀ signed : Bool, ∃ q r : Xlenbits,
    Writes s rd (.DIV rs2 rs1 rd signed) q ∧ Writes s rd (.REM rs2 rs1 rd signed) r
    ∧ q = divResult signed a b ∧ r = remResult signed a b ∧ DivisionLaw signed a b q r

/-- The forms for words compute the same of the low words, sign-extended. -/
structure WordLaw (a b : BitVec 32) : Prop where
  product : Writes s rd (.MULW rs2 rs1 rd) ((mulResult ⟨false, true, true⟩ a b).signExtend xlen)
  division : ∀ signed : Bool, ∃ q r : BitVec 32,
    Writes s rd (.DIVW rs2 rs1 rd signed) (q.signExtend xlen)
    ∧ Writes s rd (.REMW rs2 rs1 rd signed) (r.signExtend xlen)
    ∧ q = divResult signed a b ∧ r = remResult signed a b ∧ DivisionLaw signed a b q r

/-- The instructions at the register width satisfy their laws. -/
theorem scalarLaw : ScalarLaw s rs2 rs1 rd (s.X rs1) (s.X rs2) := by
  have hxlen : 0 < xlen := by
    rcases xlen_eq with h | h <;> omega
  constructor
  · intro signed₁ signed₂ low₁ low₂
    exact ⟨_, _, rfl, rfl, mulResult_append signed₁ signed₂ low₁ low₂ hxlen _ _⟩
  · intro signed
    exact ⟨_, _, rfl, rfl, rfl, rfl, divisionLaw signed hxlen _ _⟩

/-- The forms for words satisfy their laws. -/
theorem wordLaw : WordLaw s rs2 rs1 rd (word (s.X rs1)) (word (s.X rs2)) := by
  constructor
  · rfl
  · intro signed
    exact ⟨_, _, rfl, rfl, rfl, rfl, divisionLaw signed (by decide) _ _⟩

/-- An active element of `s'` is the scalar result, at the width of the element, of the elements
that `b` gives for `vs2`'s. -/
def ElementLaw (f : Mvxfunct6) (vm : BitVec 1) (vs2 vd : Regidx)
    (b : (c : VConf) → ℕ → BitVec c.sew) (s' : State) : Prop :=
  ∃ c, ConfOf s c ∧ ∀ j < groupLen c.sew c.lmul, s.active c.n c.lmul (s.vmask vm) j = true →
    ∀ v, f.scalarResult (c.read s vs2 j) (b c j) = some v → s'.elem c.sew vd j = v

/-- **Multiplication and division.** At the register width the two halves of a product are the
exact product in each signedness, and quotient and remainder satisfy the law of the division; the
forms for words do the same with the low words and extend the sign; and the elements that the
vector instructions compute are the same functions at the width of the element. -/
theorem mul_div_laws :
    ScalarLaw s rs2 rs1 rd (s.X rs1) (s.X rs2)
    ∧ WordLaw s rs2 rs1 rd (word (s.X rs1)) (word (s.X rs2))
    ∧ (∀ f vm vs2 vs1 vd s',
      (VextArithInst.MVVTYPE f vm vs2 vs1 vd).execute.run s = .ok (.RETIRE_SUCCESS, s') →
        ElementLaw s f.scalarForm vm vs2 vd (fun c j => c.read s vs1 j) s')
    ∧ ∀ f vm vs2 rs1 vd s',
      (VextArithInst.MVXTYPE f vm vs2 rs1 vd).execute.run s = .ok (.RETIRE_SUCCESS, s') →
        ElementLaw s f vm vs2 vd (fun c _ => c.readX s rs1) s' := by
  refine ⟨scalarLaw s rs2 rs1 rd, wordLaw s rs2 rs1 rd, ?_, ?_⟩
  · intro f vm vs2 vs1 vd s' hrun
    obtain ⟨c, hc, hholds⟩ := run_executeMVVTYPE_ok hrun
    refine ⟨c, hc, ?_⟩
    intro j hj hact v hv
    have helem := hholds.outcome.elem j hj
    rw [show (c.result s vm vd _).active j = true from hact, if_pos rfl] at helem
    exact helem.trans (Mvxfunct6.elem_of_scalarResult hv)
  · intro f vm vs2 rs1 vd s' hrun
    obtain ⟨c, hc, hholds⟩ := run_executeMVXTYPE_ok hrun
    refine ⟨c, hc, ?_⟩
    intro j hj hact v hv
    have helem := hholds.outcome.elem j hj
    rw [show (c.result s vm vd _).active j = true from hact, if_pos rfl] at helem
    refine helem.trans ?_
    cases f with
    | MVX_VSLIDE1UP => cases hv
    | MVX_VSLIDE1DOWN => cases hv
    | _ => exact Mvxfunct6.elem_of_scalarResult hv

end

/-- `vdiv.vx v8, v16, x1` divides -1 by 1 in a state with one active element. -/
theorem mul_div_laws_vdiv :
    letI := rv64Pmp 16 (by decide)
    ScalarLaw onesElement 1#5 2#5 3#5 0#_ 1#_
    ∧ ∃ s', (VextArithInst.MVXTYPE .MVX_VDIV 1#1 16#5 1#5 8#5).execute.run onesElement
        = .ok (.RETIRE_SUCCESS, s')
      ∧ s'.elem 64 8#5 0 = -1#64
      ∧ ElementLaw onesElement .MVX_VDIV 1#1 16#5 8#5 (fun c _ => c.readX onesElement 1#5) s' := by
  let := rv64Pmp 16 (by decide)
  have hall : (VextArithInst.MVXTYPE .MVX_VDIV 1#1 16#5 1#5 8#5).execute.passes onesElement
      (fun r s' => r == .RETIRE_SUCCESS && s'.elem 64 8#5 0 == -1#64) = true := by
    decide +kernel
  obtain ⟨r, s', hrun, htest⟩ := Exec.passes_iff.mp hall
  simp only [Bool.and_eq_true, beq_iff_eq] at htest
  obtain ⟨rfl, helem⟩ := htest
  obtain ⟨hscalar, -, -, hvector⟩ := mul_div_laws onesElement 1#5 2#5 3#5
  exact ⟨hscalar, s', hrun, helem, hvector _ _ _ _ _ _ hrun⟩

end SailRiscv
