/-
# The minimum and the maximum of floating-point values

The order of the values of a format, with the negative zero below the positive one, and the six
operations that take the smaller or the larger of two operands: `FMIN` and `FMAX`, `FMINM` and
`FMAXM`, and `fp_min` and `fp_max` of the vector extension.
-/
import SailRiscv.Insts.Zfa
import SailRiscv.VextFpUtils
import SailRiscv.Lib.BinaryFloat

namespace SailRiscv

open BinaryFloat

/-! ## The value of an encoding -/

/-- The bias of the exponent. -/
def FpFormat.bias : FpFormat → ℕ
  | .H => 15
  | .S => 127
  | .D => 1023

section

variable {f : FpFormat}

/-- The magnitude of a finite value. -/
def fmagnitude (v : BitVec f.width) : ℚ :=
  magnitude f.mantWidth f.bias (fexp v).toNat (fmant v).toNat

/-- The magnitude of a value that is not a NaN. -/
noncomputable def fextMagnitude (v : BitVec f.width) : EReal :=
  if fexp v = BitVec.allOnes _ then ⊤ else ((fmagnitude v : ℝ) : EReal)

/-- The extended real value of an encoding that is not a NaN. -/
noncomputable def fvalue (v : BitVec f.width) : EReal :=
  if fsign v = 0b1#1 then -fextMagnitude v else fextMagnitude v

/-- The order of the values, with the negative zero below the positive one. -/
def FpBelow (a b : BitVec f.width) : Prop :=
  fvalue a < fvalue b ∨ fvalue a = fvalue b ∧ (fsign b = 0b1#1 → fsign a = 0b1#1)

/-! ## The order as an order of numbers -/

/-- The exponent and the mantissa as one number. -/
def fkey (v : BitVec f.width) : ℕ := key f.mantWidth (fexp v).toNat (fmant v).toNat

/-- The place of an encoding in the order. -/
def forder (v : BitVec f.width) : ℤ :=
  if fsign v = 0b1#1 then -(fkey v : ℤ) - 1 else fkey v

/-- A sign is one of two. -/
theorem fsign_cases (v : BitVec f.width) : fsign v = 0b0#1 ∨ fsign v = 0b1#1 := by
  generalize fsign v = x
  revert x
  decide

/-- An encoding is determined by its three parts. -/
theorem eq_of_parts {a b : BitVec f.width} (hs : fsign a = fsign b) (he : fexp a = fexp b)
    (hm : fmant a = fmant b) : a = b := by
  have hwidth : f.width = f.expWidth + f.mantWidth + 1 := by
    cases f <;> rfl
  apply BitVec.eq_of_getLsbD_eq
  intro i hi
  rcases Nat.lt_or_ge i f.mantWidth with hlow | hhigh
  · have h := congrArg (fun x => x.getLsbD i) hm
    simpa [fmant, hlow] using h
  rcases Nat.lt_or_ge i (f.expWidth + f.mantWidth) with hmid | htop
  · have h := congrArg (fun x => x.getLsbD (i - f.mantWidth)) he
    simpa [fexp, show i - f.mantWidth < f.expWidth by omega, Nat.add_sub_cancel' hhigh] using h
  · have h := congrArg (fun x => x.getLsbD 0) hs
    have hi' : i = f.expWidth + f.mantWidth := by omega
    simpa [fsign, hi'] using h

/-- The place of an encoding without the sign bit. -/
theorem forder_pos {v : BitVec f.width} (h : fsign v = 0b0#1) : forder v = fkey v := by
  unfold forder
  rw [h, if_neg (by decide)]

/-- The place of an encoding with the sign bit. -/
theorem forder_neg {v : BitVec f.width} (h : fsign v = 0b1#1) : forder v = -(fkey v : ℤ) - 1 := by
  unfold forder
  rw [h, if_pos rfl]

/-- The place in the order determines the encoding. -/
theorem forder_inj {a b : BitVec f.width} (h : forder a = forder b) : a = b := by
  have hkey (hs : fsign a = fsign b) (hk : fkey a = fkey b) : a = b := by
    obtain ⟨he, hm⟩ := key_inj (fmant a).isLt (fmant b).isLt hk
    exact eq_of_parts hs (BitVec.eq_of_toNat_eq he) (BitVec.eq_of_toNat_eq hm)
  rcases fsign_cases a with ha | ha <;> rcases fsign_cases b with hb | hb
  · rw [forder_pos ha, forder_pos hb] at h
    exact hkey (ha.trans hb.symm) (by omega)
  · rw [forder_pos ha, forder_neg hb] at h
    omega
  · rw [forder_neg ha, forder_pos hb] at h
    omega
  · rw [forder_neg ha, forder_neg hb] at h
    exact hkey (ha.trans hb.symm) (by omega)

/-- A NaN has all bits of the exponent set and a mantissa. -/
theorem fIsNaN_eq_false_iff {v : BitVec f.width} :
    fIsNaN v = false ↔ (fexp v = BitVec.allOnes _ → fmant v = 0#_) := by
  unfold fIsNaN
  rw [Bool.and_eq_false_iff, bne_eq_false_iff_eq, beq_eq_false_iff_ne]
  exact Decidable.imp_iff_not_or.symm

/-- An exponent that is not the last one is less than it. -/
theorem fexp_lt {v : BitVec f.width} (h : fexp v ≠ BitVec.allOnes _) :
    (fexp v).toNat < (BitVec.allOnes f.expWidth).toNat := by
  have hle := (fexp v).isLt
  have hne : (fexp v).toNat ≠ (BitVec.allOnes f.expWidth).toNat := fun heq =>
    h (BitVec.eq_of_toNat_eq heq)
  rw [BitVec.toNat_allOnes] at hne ⊢
  omega

/-- The key of a finite value is below that of an infinite one. -/
theorem fkey_lt_of_infinite {a b : BitVec f.width} (ha : fexp a ≠ BitVec.allOnes _)
    (hb : fexp b = BitVec.allOnes _) : fkey a < fkey b := by
  have hle : ((fexp a).toNat + 1) * 2 ^ f.mantWidth ≤ (fexp b).toNat * 2 ^ f.mantWidth := by
    rw [hb]
    exact Nat.mul_le_mul_right _ (fexp_lt ha)
  have hmant := (fmant a).isLt
  rw [Nat.add_mul] at hle
  unfold fkey key
  omega

/-- The magnitudes are ordered as the keys. -/
theorem fextMagnitude_lt_iff {a b : BitVec f.width} (ha : fIsNaN a = false)
    (hb : fIsNaN b = false) : fextMagnitude a < fextMagnitude b ↔ fkey a < fkey b := by
  rw [fIsNaN_eq_false_iff] at ha hb
  unfold fextMagnitude
  by_cases hinfA : fexp a = BitVec.allOnes _ <;> by_cases hinfB : fexp b = BitVec.allOnes _
  · have hkey : fkey a = fkey b := by
      unfold fkey
      rw [hinfA, hinfB, ha hinfA, hb hinfB]
    rw [if_pos hinfA, if_pos hinfB, hkey]
    exact iff_of_false (lt_irrefl _) (lt_irrefl _)
  · rw [if_pos hinfA, if_neg hinfB]
    exact iff_of_false (not_lt_of_ge le_top) (fkey_lt_of_infinite hinfB hinfA).not_gt
  · rw [if_neg hinfA, if_pos hinfB]
    exact iff_of_true (EReal.coe_lt_top _) (fkey_lt_of_infinite hinfA hinfB)
  · rw [if_neg hinfA, if_neg hinfB, EReal.coe_lt_coe_iff, Rat.cast_lt]
    exact magnitude_lt_iff (fmant a).isLt (fmant b).isLt

/-- A magnitude is not negative. -/
theorem fextMagnitude_nonneg (v : BitVec f.width) : 0 ≤ fextMagnitude v := by
  unfold fextMagnitude
  by_cases h : fexp v = BitVec.allOnes _
  · rw [if_pos h]
    exact le_top
  · rw [if_neg h]
    exact EReal.coe_nonneg.mpr (Rat.cast_nonneg.mpr magnitude_nonneg)

/-- The magnitudes are equal when the keys are. -/
theorem fextMagnitude_eq_iff {a b : BitVec f.width} (ha : fIsNaN a = false)
    (hb : fIsNaN b = false) : fextMagnitude a = fextMagnitude b ↔ fkey a = fkey b := by
  rw [le_antisymm_iff, ← not_lt, ← not_lt, fextMagnitude_lt_iff hb ha, fextMagnitude_lt_iff ha hb]
  omega

/-- Only the zeros have the magnitude zero. -/
theorem fextMagnitude_eq_zero {v : BitVec f.width} :
    fextMagnitude v = 0 ↔ fexp v = 0#_ ∧ fmant v = 0#_ := by
  unfold fextMagnitude
  by_cases hinf : fexp v = BitVec.allOnes _
  · have hne : fexp v ≠ 0#_ := by
      rw [hinf]
      cases f <;> decide
    rw [if_pos hinf]
    exact iff_of_false EReal.top_ne_zero (fun h => hne h.1)
  · rw [if_neg hinf, EReal.coe_eq_zero, Rat.cast_eq_zero]
    refine magnitude_eq_zero.trans ?_
    rw [← BitVec.toNat_inj, ← BitVec.toNat_inj, BitVec.toNat_zero, BitVec.toNat_zero]

/-- The parts of the negative zero. -/
theorem fIsNegZero_iff {v : BitVec f.width} :
    fIsNegZero v = true ↔ fsign v = 0b1#1 ∧ fexp v = 0#_ ∧ fmant v = 0#_ := by
  unfold fIsNegZero
  rw [Bool.and_eq_true, Bool.and_eq_true, beq_iff_eq, beq_iff_eq, beq_iff_eq, and_assoc]

/-- The parts of the positive zero. -/
theorem fIsPosZero_iff {v : BitVec f.width} :
    fIsPosZero v = true ↔ fsign v = 0b0#1 ∧ fexp v = 0#_ ∧ fmant v = 0#_ := by
  unfold fIsPosZero
  rw [Bool.and_eq_true, Bool.and_eq_true, beq_iff_eq, beq_iff_eq, beq_iff_eq, and_assoc]

/-- **The order of the values is the order of the places.** -/
theorem fpBelow_iff {a b : BitVec f.width} (ha : fIsNaN a = false) (hb : fIsNaN b = false) :
    FpBelow a b ↔ forder a ≤ forder b := by
  have hlt := fextMagnitude_lt_iff ha hb
  have heq := fextMagnitude_eq_iff ha hb
  have hgt := fextMagnitude_lt_iff hb ha
  have hnonpos (v : BitVec f.width) : -fextMagnitude v ≤ 0 := by
    rw [EReal.neg_le, neg_zero]
    exact fextMagnitude_nonneg v
  unfold FpBelow fvalue
  rcases fsign_cases a with hsa | hsa <;> rcases fsign_cases b with hsb | hsb
  · rw [forder_pos hsa, forder_pos hsb, hsa, hsb, if_neg (by decide), if_neg (by decide), hlt, heq]
    simp
    omega
  · rw [forder_pos hsa, forder_neg hsb, hsa, hsb, if_neg (by decide), if_pos rfl]
    refine iff_of_false ?_ (by omega)
    rintro (h | ⟨-, h⟩)
    · exact absurd h (not_lt_of_ge ((hnonpos b).trans (fextMagnitude_nonneg a)))
    · exact absurd (h rfl) (by decide)
  · rw [forder_neg hsa, forder_pos hsb, hsa, hsb, if_pos rfl, if_neg (by decide)]
    refine iff_of_true ?_ (by omega)
    rcases ((hnonpos a).trans (fextMagnitude_nonneg b)).lt_or_eq with h | h
    · exact Or.inl h
    · exact Or.inr ⟨h, fun h => absurd h (by decide)⟩
  · rw [forder_neg hsa, forder_neg hsb, hsa, hsb, if_pos rfl, if_pos rfl, EReal.neg_lt_neg_iff,
      neg_inj, hgt, heq]
    simp
    omega

/-- The value is less when the place is, but for the two zeros. -/
theorem fvalue_lt_iff {a b : BitVec f.width} (ha : fIsNaN a = false) (hb : fIsNaN b = false) :
    fvalue a < fvalue b
      ↔ forder a < forder b ∧ ¬ (fIsNegZero a = true ∧ fIsPosZero b = true) := by
  have hab := fpBelow_iff ha hb
  have hba := fpBelow_iff hb ha
  constructor
  · intro h
    constructor
    · have hle := hab.mp (Or.inl h)
      have hne : forder a ≠ forder b := by
        intro heq
        rw [forder_inj heq] at h
        exact absurd h (lt_irrefl _)
      omega
    · rintro ⟨hza, hzb⟩
      obtain ⟨hsa, hza⟩ := fIsNegZero_iff.mp hza
      obtain ⟨hsb, hzb⟩ := fIsPosZero_iff.mp hzb
      unfold fvalue at h
      rw [hsa, hsb, if_pos rfl, if_neg (by decide), fextMagnitude_eq_zero.mpr hza,
        fextMagnitude_eq_zero.mpr hzb, neg_zero] at h
      exact lt_irrefl _ h
  · rintro ⟨hlt, hzero⟩
    rcases hab.mpr hlt.le with h | ⟨heq, hsign⟩
    · exact h
    · exfalso
      have hnot : ¬ FpBelow b a := fun h => absurd (hba.mp h) (by omega)
      have hsigns : fsign a = 0b1#1 ∧ fsign b = 0b0#1 := by
        rcases fsign_cases a with hsa | hsa <;> rcases fsign_cases b with hsb | hsb
        · exact absurd (Or.inr ⟨heq.symm, fun h => absurd (hsa.symm.trans h) (by decide)⟩) hnot
        · exact absurd (Or.inr ⟨heq.symm, fun _ => hsb⟩) hnot
        · exact ⟨hsa, hsb⟩
        · exact absurd (Or.inr ⟨heq.symm, fun _ => hsb⟩) hnot
      obtain ⟨hsa, hsb⟩ := hsigns
      unfold fvalue at heq
      rw [hsa, hsb, if_pos rfl, if_neg (by decide)] at heq
      have hzeroA : fextMagnitude a = 0 := by
        refine le_antisymm ?_ (fextMagnitude_nonneg a)
        rw [← EReal.neg_le_neg_iff, neg_zero, heq]
        exact fextMagnitude_nonneg b
      have hzeroB : fextMagnitude b = 0 := by
        rw [← heq, hzeroA, neg_zero]
      exact hzero ⟨fIsNegZero_iff.mpr ⟨hsa, fextMagnitude_eq_zero.mp hzeroA⟩,
        fIsPosZero_iff.mpr ⟨hsb, fextMagnitude_eq_zero.mp hzeroB⟩⟩

/-! ## The comparison of the code -/

/-- The zeros are next to each other. -/
theorem forder_negZero {v : BitVec f.width} (h : fIsNegZero v = true) : forder v = -1 := by
  obtain ⟨hs, he, hm⟩ := fIsNegZero_iff.mp h
  rw [forder_neg hs]
  unfold fkey key
  rw [he, hm]
  simp

/-- The zeros are next to each other. -/
theorem forder_posZero {v : BitVec f.width} (h : fIsPosZero v = true) : forder v = 0 := by
  obtain ⟨hs, he, hm⟩ := fIsPosZero_iff.mp h
  rw [forder_pos hs]
  unfold fkey key
  rw [he, hm]
  simp

/-- The exponents decide the order of the keys, and the mantissas where they are the same. -/
theorem fkey_lt_iff (a b : BitVec f.width) :
    fkey a < fkey b ↔ if fexp a = fexp b then (fmant a).toNat < (fmant b).toNat
      else (fexp a).toNat < (fexp b).toNat := by
  have hma := (fmant a).isLt
  have hmb := (fmant b).isLt
  unfold fkey key
  by_cases he : fexp a = fexp b
  · rw [if_pos he, he]
    omega
  · have hne : (fexp a).toNat ≠ (fexp b).toNat := fun h => he (BitVec.eq_of_toNat_eq h)
    rw [if_neg he]
    rcases Nat.lt_or_gt_of_ne hne with hlt | hgt
    · have hle : ((fexp a).toNat + 1) * 2 ^ f.mantWidth ≤ (fexp b).toNat * 2 ^ f.mantWidth :=
        Nat.mul_le_mul_right _ hlt
      rw [Nat.add_mul] at hle
      omega
    · have hle : ((fexp b).toNat + 1) * 2 ^ f.mantWidth ≤ (fexp a).toNat * 2 ^ f.mantWidth :=
        Nat.mul_le_mul_right _ hgt
      rw [Nat.add_mul] at hle
      omega

/-- `fle` is the order of the places, but that it takes the zeros as equal. -/
theorem fle_iff (a b : BitVec f.width) (q : Bool) :
    (fle a b q).1 = true ↔ forder a ≤ forder b ∨ fIsPosZero a = true ∧ fIsNegZero b = true := by
  have hab := fkey_lt_iff a b
  have hba := fkey_lt_iff b a
  have hnegB (h : fsign b = 0b0#1) : ¬ fIsNegZero b = true := fun hz =>
    absurd ((fIsNegZero_iff.mp hz).1.symm.trans h) (by decide)
  have hposA (h : fsign a = 0b1#1) : ¬ fIsPosZero a = true := fun hz =>
    absurd ((fIsPosZero_iff.mp hz).1.symm.trans h) (by decide)
  have hnegA (h : fsign a = 0b0#1) : fIsNegZero a = false := by
    rw [← Bool.not_eq_true]
    exact fun hz => absurd ((fIsNegZero_iff.mp hz).1.symm.trans h) (by decide)
  have hposB (h : fsign b = 0b1#1) : fIsPosZero b = false := by
    rw [← Bool.not_eq_true]
    exact fun hz => absurd ((fIsPosZero_iff.mp hz).1.symm.trans h) (by decide)
  rcases fsign_cases a with hsa | hsa <;> rcases fsign_cases b with hsb | hsb
  · have hres : (fle a b q).1 = if fexp a = fexp b then decide ((fmant a).toNat ≤ (fmant b).toNat)
        else decide ((fexp a).toNat < (fexp b).toNat) := by
      unfold fle
      rw [hsa, hsb]
      rfl
    have hle : fkey a ≤ fkey b ↔ ¬ fkey b < fkey a := not_lt.symm
    rw [hres, forder_pos hsa, forder_pos hsb, or_iff_left (fun h => hnegB hsb h.2), Nat.cast_le,
      hle, hba]
    by_cases he : fexp a = fexp b
    · rw [if_pos he, if_pos he.symm, decide_eq_true_iff, not_lt]
    · have hne : (fexp a).toNat ≠ (fexp b).toNat := fun h => he (BitVec.eq_of_toNat_eq h)
      rw [if_neg he, if_neg (fun h => he h.symm), decide_eq_true_iff]
      omega
  · have hres : (fle a b q).1 = (fIsPosZero a && fIsNegZero b) := by
      unfold fle
      rw [hsa, hsb, hnegA hsa, hposB hsb, Bool.false_or, Bool.or_false]
      rfl
    rw [hres, forder_pos hsa, forder_neg hsb, or_iff_right (by omega), Bool.and_eq_true]
  · have hres : (fle a b q).1 = true := by
      unfold fle
      rw [hsa, hsb]
      rfl
    rw [forder_neg hsa, forder_pos hsb]
    exact iff_of_true hres (Or.inl (by omega))
  · have hres : (fle a b q).1 = if fexp a = fexp b then decide ((fmant a).toNat ≥ (fmant b).toNat)
        else decide ((fexp a).toNat > (fexp b).toNat) := by
      unfold fle
      rw [hsa, hsb]
      rfl
    rw [hres, forder_neg hsa, forder_neg hsb, or_iff_left (fun h => hposA hsa h.1)]
    by_cases he : fexp a = fexp b
    · rw [if_pos he] at hab ⊢
      rw [decide_eq_true_iff]
      omega
    · have hne : (fexp a).toNat ≠ (fexp b).toNat := fun h => he (BitVec.eq_of_toNat_eq h)
      rw [if_neg (fun h => he h.symm)] at hba
      rw [if_neg he, decide_eq_true_iff]
      rw [if_neg he] at hab
      omega

/-! ## The operations -/

/-- The smaller of two encodings that are not NaNs. -/
def lesser (a b : BitVec f.width) : BitVec f.width := if forder a ≤ forder b then a else b

/-- The larger of two encodings that are not NaNs. -/
def greater (a b : BitVec f.width) : BitVec f.width := if forder b ≤ forder a then a else b

/-- The smaller of two encodings, in either order. -/
theorem lesser_comm (a b : BitVec f.width) : lesser a b = lesser b a := by
  unfold lesser
  by_cases hab : forder a ≤ forder b <;> by_cases hba : forder b ≤ forder a
  · rw [if_pos hab, if_pos hba, forder_inj (le_antisymm hab hba)]
  · rw [if_pos hab, if_neg hba]
  · rw [if_neg hab, if_pos hba]
  · omega

/-- The larger of two encodings, in either order. -/
theorem greater_comm (a b : BitVec f.width) : greater a b = greater b a := by
  unfold greater
  by_cases hab : forder a ≤ forder b <;> by_cases hba : forder b ≤ forder a
  · rw [if_pos hab, if_pos hba, forder_inj (le_antisymm hab hba)]
  · rw [if_pos hab, if_neg hba]
  · rw [if_neg hab, if_pos hba]
  · omega

/-- The end of the minimum operations, where no operand is a NaN. -/
theorem min_cascade (a b : BitVec f.width) (q : Bool) :
    (if fIsNegZero a && fIsPosZero b then a else if fIsNegZero b && fIsPosZero a then b
      else if (fle a b q).1 then a else b) = lesser a b := by
  unfold lesser
  by_cases hab : (fIsNegZero a && fIsPosZero b) = true
  · obtain ⟨hza, hzb⟩ := Bool.and_eq_true_iff.mp hab
    rw [if_pos hab, if_pos (by rw [forder_negZero hza, forder_posZero hzb]; decide)]
  by_cases hba : (fIsNegZero b && fIsPosZero a) = true
  · obtain ⟨hzb, hza⟩ := Bool.and_eq_true_iff.mp hba
    rw [if_neg hab, if_pos hba, if_neg (by rw [forder_negZero hzb, forder_posZero hza]; decide)]
  · have hle : (fle a b q).1 = true ↔ forder a ≤ forder b := by
      rw [fle_iff]
      exact or_iff_left (fun h => hba (Bool.and_eq_true_iff.mpr ⟨h.2, h.1⟩))
    rw [if_neg hab, if_neg hba]
    by_cases h : forder a ≤ forder b
    · rw [if_pos h, if_pos (hle.mpr h)]
    · rw [if_neg h, if_neg (fun hl => h (hle.mp hl))]

/-- The end of the maximum operations, where no operand is a NaN. -/
theorem max_cascade (a b : BitVec f.width) (q : Bool) :
    (if fIsNegZero a && fIsPosZero b then b else if fIsNegZero b && fIsPosZero a then a
      else if (fle b a q).1 then a else b) = greater a b := by
  unfold greater
  by_cases hab : (fIsNegZero a && fIsPosZero b) = true
  · obtain ⟨hza, hzb⟩ := Bool.and_eq_true_iff.mp hab
    rw [if_pos hab, if_neg (by rw [forder_negZero hza, forder_posZero hzb]; decide)]
  by_cases hba : (fIsNegZero b && fIsPosZero a) = true
  · obtain ⟨hzb, hza⟩ := Bool.and_eq_true_iff.mp hba
    rw [if_neg hab, if_pos hba, if_pos (by rw [forder_negZero hzb, forder_posZero hza]; decide)]
  · have hle : (fle b a q).1 = true ↔ forder b ≤ forder a := by
      rw [fle_iff]
      exact or_iff_left (fun h => hab (Bool.and_eq_true_iff.mpr ⟨h.2, h.1⟩))
    rw [if_neg hab, if_neg hba]
    by_cases h : forder b ≤ forder a
    · rw [if_pos h, if_pos (hle.mpr h)]
    · rw [if_neg h, if_neg (fun hl => h (hle.mp hl))]

/-- The smaller of two encodings is one of them and below both. -/
theorem lesser_spec {a b : BitVec f.width} (ha : fIsNaN a = false) (hb : fIsNaN b = false) :
    (lesser a b = a ∨ lesser a b = b) ∧ FpBelow (lesser a b) a ∧ FpBelow (lesser a b) b := by
  unfold lesser
  by_cases h : forder a ≤ forder b
  · rw [if_pos h]
    exact ⟨Or.inl rfl, (fpBelow_iff ha ha).mpr (le_refl _), (fpBelow_iff ha hb).mpr h⟩
  · rw [if_neg h]
    exact ⟨Or.inr rfl, (fpBelow_iff hb ha).mpr (by omega), (fpBelow_iff hb hb).mpr (le_refl _)⟩

/-- The larger of two encodings is one of them and above both. -/
theorem greater_spec {a b : BitVec f.width} (ha : fIsNaN a = false) (hb : fIsNaN b = false) :
    (greater a b = a ∨ greater a b = b) ∧ FpBelow a (greater a b) ∧ FpBelow b (greater a b) := by
  unfold greater
  by_cases h : forder b ≤ forder a
  · rw [if_pos h]
    exact ⟨Or.inl rfl, (fpBelow_iff ha ha).mpr (le_refl _), (fpBelow_iff hb ha).mpr h⟩
  · rw [if_neg h]
    exact ⟨Or.inr rfl, (fpBelow_iff ha hb).mpr (by omega), (fpBelow_iff hb hb).mpr (le_refl _)⟩

/-- What `FMIN` and `FMAX` return for operands of which one may be a NaN. -/
def orOther (select : BitVec f.width → BitVec f.width → BitVec f.width) (a b : BitVec f.width) :
    BitVec f.width :=
  if fIsNaN a && fIsNaN b then canonicalNaN f
  else if fIsNaN a then b
  else if fIsNaN b then a
  else select a b

/-- What `FMINM` and `FMAXM` return for operands of which one may be a NaN. -/
def orCanonical (select : BitVec f.width → BitVec f.width → BitVec f.width)
    (a b : BitVec f.width) : BitVec f.width :=
  if fIsNaN a || fIsNaN b then canonicalNaN f else select a b

/-- The flags of the six operations. -/
def signallingFlags (a b : BitVec f.width) : Fflags :=
  if fIsSNaN a || fIsSNaN b then nvFlag else 0#5

/-- `FMIN`. -/
theorem fminResult_eq (a b : BitVec f.width) :
    fminResult a b = (signallingFlags a b, orOther lesser a b) := by
  unfold fminResult orOther
  rw [← min_cascade a b true]
  rfl

/-- `FMAX`. -/
theorem fmaxResult_eq (a b : BitVec f.width) :
    fmaxResult a b = (signallingFlags b a, orOther greater a b) := by
  unfold fmaxResult orOther
  rw [← max_cascade a b true]
  rfl

/-- `FMINM`. -/
theorem fminmResult_eq (a b : BitVec f.width) :
    fminmResult a b = (signallingFlags a b, orCanonical lesser a b) := by
  unfold fminmResult orCanonical
  rw [← min_cascade a b true]
  rfl

/-- `FMAXM`. -/
theorem fmaxmResult_eq (a b : BitVec f.width) :
    fmaxmResult a b = (signallingFlags b a, orCanonical greater a b) := by
  unfold fmaxmResult orCanonical
  rw [← max_cascade a b true]
  rfl

/-- The flags in either order. -/
theorem signallingFlags_comm (a b : BitVec f.width) :
    signallingFlags a b = signallingFlags b a := by
  unfold signallingFlags
  rw [Bool.or_comm]

/-! ## The comparison of the library -/

/-- The quiet comparison of the library is that of the standard: the invalid flag for a signalling
NaN, and less when neither operand is a NaN and the value is less. -/
def IeeeLtQuiet [SoftFloat] : Prop :=
  ∀ (f : FpFormat) (a b : BitVec f.width),
    (SoftFloat.ltQuiet f a b).1 = signallingFlags a b
    ∧ ((SoftFloat.ltQuiet f a b).2 = true
      ↔ fIsNaN a = false ∧ fIsNaN b = false ∧ fvalue a < fvalue b)

section

variable {lt : Bool} {a b : BitVec f.width}

/-- The comparison of the library, for operands that are not NaNs and not zeros of both signs. -/
theorem lt_iff_forder
    (hlt : lt = true ↔ fIsNaN a = false ∧ fIsNaN b = false ∧ fvalue a < fvalue b)
    (ha : fIsNaN a = false) (hb : fIsNaN b = false)
    (hzero : ¬ (fIsNegZero a && fIsPosZero b) = true) : lt = true ↔ forder a < forder b := by
  rw [hlt, fvalue_lt_iff ha hb]
  constructor
  · exact fun h => h.2.2.1
  · exact fun h => ⟨ha, hb, h, fun hz => hzero (Bool.and_eq_true_iff.mpr hz)⟩

/-- The value of `fp_min`. -/
theorem fpMinValue_eq
    (hlt : lt = true ↔ fIsNaN a = false ∧ fIsNaN b = false ∧ fvalue a < fvalue b) :
    fpMinValue lt a b = orOther lesser a b := by
  unfold fpMinValue orOther
  by_cases hboth : (fIsNaN a && fIsNaN b) = true
  · rw [if_pos hboth, if_pos hboth]
  by_cases ha : fIsNaN a = true
  · rw [if_neg hboth, if_neg hboth, if_pos ha, if_pos ha]
  by_cases hb : fIsNaN b = true
  · rw [if_neg hboth, if_neg hboth, if_neg ha, if_neg ha, if_pos hb, if_pos hb]
  rw [if_neg hboth, if_neg hboth, if_neg ha, if_neg ha, if_neg hb, if_neg hb, ← min_cascade a b true]
  by_cases hab : (fIsNegZero a && fIsPosZero b) = true
  · rw [if_pos hab, if_pos hab]
  by_cases hba : (fIsNegZero b && fIsPosZero a) = true
  · rw [if_neg hab, if_neg hab, if_pos hba, if_pos hba]
  · have hless := lt_iff_forder hlt (Bool.eq_false_of_not_eq_true ha)
      (Bool.eq_false_of_not_eq_true hb) hab
    have hle : (fle a b true).1 = true ↔ forder a ≤ forder b := by
      rw [fle_iff]
      exact or_iff_left (fun h => hba (Bool.and_eq_true_iff.mpr ⟨h.2, h.1⟩))
    rw [if_neg hab, if_neg hab, if_neg hba, if_neg hba]
    rcases lt_trichotomy (forder a) (forder b) with h | h | h
    · rw [if_pos (hless.mpr h), if_pos (hle.mpr h.le)]
    · rw [forder_inj h, ite_self, ite_self]
    · rw [if_neg (fun hl => absurd (hless.mp hl) (by omega)),
        if_neg (fun hl => absurd (hle.mp hl) (by omega))]

/-- The value of `fp_max`. -/
theorem fpMaxValue_eq
    (hlt : lt = true ↔ fIsNaN a = false ∧ fIsNaN b = false ∧ fvalue a < fvalue b) :
    fpMaxValue lt a b = orOther greater a b := by
  unfold fpMaxValue orOther
  by_cases hboth : (fIsNaN a && fIsNaN b) = true
  · rw [if_pos hboth, if_pos hboth]
  by_cases ha : fIsNaN a = true
  · rw [if_neg hboth, if_neg hboth, if_pos ha, if_pos ha]
  by_cases hb : fIsNaN b = true
  · rw [if_neg hboth, if_neg hboth, if_neg ha, if_neg ha, if_pos hb, if_pos hb]
  rw [if_neg hboth, if_neg hboth, if_neg ha, if_neg ha, if_neg hb, if_neg hb, ← max_cascade a b true]
  by_cases hab : (fIsNegZero a && fIsPosZero b) = true
  · rw [if_pos hab, if_pos hab]
  by_cases hba : (fIsNegZero b && fIsPosZero a) = true
  · rw [if_neg hab, if_neg hab, if_pos hba, if_pos hba]
  · have hless := lt_iff_forder hlt (Bool.eq_false_of_not_eq_true ha)
      (Bool.eq_false_of_not_eq_true hb) hab
    have hle : (fle b a true).1 = true ↔ forder b ≤ forder a := by
      rw [fle_iff]
      exact or_iff_left (fun h => hab (Bool.and_eq_true_iff.mpr ⟨h.2, h.1⟩))
    rw [if_neg hab, if_neg hab, if_neg hba, if_neg hba]
    rcases lt_trichotomy (forder a) (forder b) with h | h | h
    · rw [if_pos (hless.mpr h), if_neg (fun hl => absurd (hle.mp hl) (by omega))]
    · rw [forder_inj h, ite_self, ite_self]
    · rw [if_neg (fun hl => absurd (hless.mp hl) (by omega)), if_pos (hle.mpr h.le)]

end

end

/-! ## The laws -/

section

variable {f : FpFormat}

/-- What the operations return for `a` and `b`: `select` of them when neither is a NaN; and for
NaNs the other operand, or the canonical NaN, in `r`, and always the canonical NaN in `rM`. -/
structure SelectLaw (below : BitVec f.width → BitVec f.width → Prop) (a b r rM : BitVec f.width) :
    Prop where
  one : fIsNaN a = false → fIsNaN b = false → (r = a ∨ r = b) ∧ below r a ∧ below r b
  same : fIsNaN a = false → fIsNaN b = false → rM = r
  left : fIsNaN a = true → fIsNaN b = false → r = b
  right : fIsNaN a = false → fIsNaN b = true → r = a
  both : fIsNaN a = true → fIsNaN b = true → r = canonicalNaN f
  canonical : fIsNaN a = true ∨ fIsNaN b = true → rM = canonicalNaN f

/-- The law of a selection. -/
theorem selectLaw {below : BitVec f.width → BitVec f.width → Prop}
    {select : BitVec f.width → BitVec f.width → BitVec f.width} {a b : BitVec f.width}
    (h : fIsNaN a = false → fIsNaN b = false →
      (select a b = a ∨ select a b = b) ∧ below (select a b) a ∧ below (select a b) b) :
    SelectLaw below a b (orOther select a b) (orCanonical select a b) := by
  have hplain (ha : fIsNaN a = false) (hb : fIsNaN b = false) :
      orOther select a b = select a b ∧ orCanonical select a b = select a b := by
    unfold orOther orCanonical
    rw [ha, hb]
    exact ⟨rfl, rfl⟩
  refine ⟨?_, ?_, ?_, ?_, ?_, ?_⟩
  · intro ha hb
    rw [(hplain ha hb).1]
    exact h ha hb
  · intro ha hb
    rw [(hplain ha hb).1, (hplain ha hb).2]
  · intro ha hb
    unfold orOther
    rw [ha, hb]
    rfl
  · intro ha hb
    unfold orOther
    rw [ha, hb]
    rfl
  · intro ha hb
    unfold orOther
    rw [ha, hb]
    rfl
  · intro hnan
    unfold orCanonical
    rw [Bool.or_eq_true_iff.mpr hnan, if_pos rfl]

/-- **The minimum and the maximum.** The scalar operations select the smaller or the larger
operand, in the order of the extended real values with the negative zero below the positive one,
in either order of the operands; they treat NaNs as the law says and raise the invalid flag, and
no other, for a signalling NaN; and the vector operations return and raise the same, when the
quiet comparison of the library is that of the standard. -/
theorem min_max_laws [Platform] [SoftFloat] (hlib : IeeeLtQuiet) (f : FpFormat)
    (a b : BitVec f.width) :
    SelectLaw FpBelow a b (fminResult a b).2 (fminmResult a b).2
    ∧ SelectLaw (fun x y => FpBelow y x) a b (fmaxResult a b).2 (fmaxmResult a b).2
    ∧ (fIsNaN a = false → fIsNaN b = false →
      fminResult a b = fminResult b a ∧ fmaxResult a b = fmaxResult b a)
    ∧ ((fminResult a b).1 = signallingFlags a b ∧ (fmaxResult a b).1 = signallingFlags a b
      ∧ (fminmResult a b).1 = signallingFlags a b ∧ (fmaxmResult a b).1 = signallingFlags a b)
    ∧ fpMin a b = accrued (fminResult a b) ∧ fpMax a b = accrued (fmaxResult a b) := by
  obtain ⟨hflags, hlt⟩ := hlib f a b
  have hplain (select : BitVec f.width → BitVec f.width → BitVec f.width) {x y : BitVec f.width}
      (hx : fIsNaN x = false) (hy : fIsNaN y = false) : orOther select x y = select x y := by
    unfold orOther
    rw [hx, hy]
    rfl
  refine ⟨?_, ?_, ?_, ⟨?_, ?_, ?_, ?_⟩, ?_, ?_⟩
  · rw [fminResult_eq, fminmResult_eq]
    exact selectLaw lesser_spec
  · rw [fmaxResult_eq, fmaxmResult_eq]
    exact selectLaw greater_spec
  · intro ha hb
    rw [fminResult_eq, fminResult_eq, fmaxResult_eq, fmaxResult_eq, hplain _ ha hb, hplain _ hb ha,
      hplain _ ha hb, hplain _ hb ha, lesser_comm, greater_comm, signallingFlags_comm]
    exact ⟨rfl, rfl⟩
  · rw [fminResult_eq]
  · rw [fmaxResult_eq, signallingFlags_comm]
  · rw [fminmResult_eq]
  · rw [fmaxmResult_eq, signallingFlags_comm]
  · show accrued (_, fpMinValue _ a b) = _
    rw [fpMinValue_eq hlt, hflags, fminResult_eq]
  · show accrued (_, fpMaxValue _ a b) = _
    rw [fpMaxValue_eq hlt, hflags, fmaxResult_eq, signallingFlags_comm]

/-- The quiet comparison of the standard, computed by the order of the places. -/
def orderedLtQuiet (a b : BitVec f.width) : Fflags × Bool :=
  (signallingFlags a b,
    !fIsNaN a && !fIsNaN b && decide (forder a < forder b) && !(fIsNegZero a && fIsPosZero b))

/-- A library whose quiet comparison is that of the standard. -/
@[reducible] def orderedSoftFloat : SoftFloat :=
  { (default : SoftFloat) with ltQuiet := fun _ => orderedLtQuiet }

/-- The comparison by the places is that of the standard. -/
theorem ieeeLtQuiet_ordered : @IeeeLtQuiet orderedSoftFloat := by
  intro f a b
  refine ⟨rfl, ?_⟩
  show (!fIsNaN a && !fIsNaN b && decide (forder a < forder b)
    && !(fIsNegZero a && fIsPosZero b)) = true ↔ _
  rw [Bool.and_eq_true, Bool.and_eq_true, Bool.and_eq_true, Bool.not_eq_true', Bool.not_eq_true',
    Bool.not_eq_true', decide_eq_true_iff, ← Bool.not_eq_true (fIsNegZero a && fIsPosZero b),
    Bool.and_eq_true]
  constructor
  · rintro ⟨⟨⟨ha, hb⟩, hlt⟩, hzero⟩
    exact ⟨ha, hb, (fvalue_lt_iff ha hb).mpr ⟨hlt, hzero⟩⟩
  · rintro ⟨ha, hb, hlt⟩
    obtain ⟨hlt, hzero⟩ := (fvalue_lt_iff ha hb).mp hlt
    exact ⟨⟨⟨ha, hb⟩, hlt⟩, hzero⟩

end

/-- The two zeros of binary16: the vector minimum is the scalar one. -/
theorem min_max_laws_zeros :
    letI := rv64Pmp 16 (by decide)
    letI := orderedSoftFloat
    fpMin (f := .H) 0x8000#16 0x0000#16 = accrued (fminResult (f := .H) 0x8000#16 0x0000#16)
    ∧ (fminResult (f := .H) 0x8000#16 0x0000#16).2 = 0x8000#16 := by
  let := rv64Pmp 16 (by decide)
  let := orderedSoftFloat
  obtain ⟨-, -, -, -, hmin, -⟩ := min_max_laws ieeeLtQuiet_ordered .H 0x8000#16 0x0000#16
  exact ⟨hmin, by decide⟩

end SailRiscv
