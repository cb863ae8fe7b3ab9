/-
# Bit ranges of bit vectors

Reading and updating a contiguous range of a bit vector, and the named fields of
a register that are built from such ranges.  Everything here is stated for an
arbitrary width, so that a register whose width is a parameter (32 or 64) needs
no separate treatment.

* `setRange v lo x` : `v` with the bits from `lo` on replaced by those of `x`;
* `Field` : a bit position and a width, with `Field.get` and `Field.set`;
* `lowOnes w n` : the `w`-bit vector whose lowest `n` bits are ones.
-/
import Mathlib

namespace Bits

/-! ## Range update -/

/-- `v` with the `n` bits starting at `lo` replaced by `x`. -/
def setRange {w n : ℕ} (v : BitVec w) (lo : ℕ) (x : BitVec n) : BitVec w :=
  (v &&& ~~~((BitVec.allOnes n).setWidth w <<< lo)) ||| (x.setWidth w <<< lo)

/-- Bitwise reading of a range update. -/
theorem getLsbD_setRange {w n : ℕ} (v : BitVec w) (lo : ℕ) (x : BitVec n) (i : ℕ) :
    (setRange v lo x).getLsbD i
      = if i < w ∧ lo ≤ i ∧ i < lo + n then x.getLsbD (i - lo) else v.getLsbD i := by
  unfold setRange
  simp only [BitVec.getLsbD_or, BitVec.getLsbD_and, BitVec.getLsbD_not,
    BitVec.getLsbD_shiftLeft, BitVec.getLsbD_setWidth, BitVec.getLsbD_allOnes]
  by_cases hw : i < w
  · by_cases hlo : i < lo
    · simp [hw, hlo, show ¬ lo ≤ i by omega]
    · by_cases hn : i < lo + n
      · simp [hw, hlo, show lo ≤ i by omega, hn, show i - lo < w by omega,
          show i - lo < n by omega]
      · simp [hw, hlo, show lo ≤ i by omega, hn, show i - lo < w by omega,
          show ¬ i - lo < n by omega]
        intro h
        exact absurd (BitVec.lt_of_getLsbD h) (by omega)
  · simp [hw, BitVec.getLsbD_of_ge v i (by omega)]

/-! ## Fields -/

/-- A named field of a register: the position of its lowest bit and its width. -/
structure Field where
  lsb : ℕ
  width : ℕ

namespace Field

/-- The value of field `f` in the register `v`. -/
def get {w : ℕ} (f : Field) (v : BitVec w) : BitVec f.width :=
  v.extractLsb' f.lsb f.width

/-- The register `v` with field `f` replaced by `x`. -/
def set {w : ℕ} (f : Field) (v : BitVec w) (x : BitVec f.width) : BitVec w :=
  setRange v f.lsb x

/-- Field `f` lies inside a register of width `w`. -/
def Fits (f : Field) (w : ℕ) : Prop := f.lsb + f.width ≤ w

/-- Fields `f` and `g` have no bit in common. -/
def Apart (f g : Field) : Prop := f.lsb + f.width ≤ g.lsb ∨ g.lsb + g.width ≤ f.lsb

instance (f : Field) (w : ℕ) : Decidable (f.Fits w) :=
  inferInstanceAs (Decidable (_ ≤ _))

instance (f g : Field) : Decidable (f.Apart g) :=
  inferInstanceAs (Decidable (_ ∨ _))

theorem getLsbD_get {w : ℕ} (f : Field) (v : BitVec w) (i : ℕ) :
    (f.get v).getLsbD i = (decide (i < f.width) && v.getLsbD (f.lsb + i)) := by
  simp [get]

theorem getLsbD_set {w : ℕ} (f : Field) (v : BitVec w) (x : BitVec f.width) (i : ℕ) :
    (f.set v x).getLsbD i
      = if i < w ∧ f.lsb ≤ i ∧ i < f.lsb + f.width then x.getLsbD (i - f.lsb)
        else v.getLsbD i :=
  getLsbD_setRange v f.lsb x i

/-- A field of one bit. -/
theorem get_bit {w : ℕ} (k : ℕ) (v : BitVec w) :
    Field.get ⟨k, 1⟩ v = BitVec.ofBool (v.getLsbD k) := by
  apply BitVec.eq_of_getLsbD_eq
  intro i hi
  have hi0 : i = 0 := by
    change i < 1 at hi
    omega
  subst hi0
  rw [getLsbD_get]
  change (decide (0 < 1) && v.getLsbD (k + 0)) = _
  rw [BitVec.getLsbD_ofBool]
  simp

/-- Reading a field back after it was set. -/
theorem get_set {w : ℕ} {f : Field} (h : f.Fits w) (v : BitVec w) (x : BitVec f.width) :
    f.get (f.set v x) = x := by
  apply BitVec.eq_of_getLsbD_eq
  intro i hi
  unfold Fits at h
  rw [getLsbD_get, getLsbD_set, if_pos (by omega)]
  simp [hi]

/-- Setting one field leaves the fields apart from it unchanged. -/
theorem get_set_of_apart {w : ℕ} {f g : Field} (h : f.Apart g) (v : BitVec w)
    (x : BitVec g.width) : f.get (g.set v x) = f.get v := by
  apply BitVec.eq_of_getLsbD_eq
  intro i hi
  unfold Apart at h
  rw [getLsbD_get, getLsbD_get, getLsbD_set, if_neg (by omega)]

end Field

/-! ## Masks of low ones -/

/-- The `w`-bit vector whose lowest `n` bits are ones. -/
def lowOnes (w n : ℕ) : BitVec w := (BitVec.allOnes n).setWidth w

theorem getLsbD_lowOnes (w n i : ℕ) :
    (lowOnes w n).getLsbD i = (decide (i < w) && decide (i < n)) := by
  simp [lowOnes]

end Bits
