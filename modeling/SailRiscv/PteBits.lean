/-
# The A and D bits of a page-table entry

`SameExceptAD x y` says that two PTEs differ at most in the A and D bits, as the PTE that a
translation stores differs from the one that it reads.  Everything that the walk reads off a PTE
is the same for both.
-/
import SailRiscv.Vmem

namespace SailRiscv

open Bits Platform

/-! ## The A and D bits -/

/-- The two PTEs agree outside the bits A and D. -/
def SameExceptAD (x y : BitVec 64) : Prop :=
  ∀ i, i ≠ 6 → i ≠ 7 → x.getLsbD i = y.getLsbD i

theorem SameExceptAD.refl (x : BitVec 64) : SameExceptAD x x := fun _ _ _ => rfl

theorem SameExceptAD.symm {x y : BitVec 64} (h : SameExceptAD x y) : SameExceptAD y x :=
  fun i h6 h7 => (h i h6 h7).symm

theorem SameExceptAD.trans {x y z : BitVec 64} (h₁ : SameExceptAD x y)
    (h₂ : SameExceptAD y z) : SameExceptAD x z :=
  fun i h6 h7 => (h₁ i h6 h7).trans (h₂ i h6 h7)

/-- PTEs that agree everywhere are equal. -/
theorem SameExceptAD.eq {x y : BitVec 64} (h : SameExceptAD x y)
    (hA : x.getLsbD 6 = y.getLsbD 6) (hD : x.getLsbD 7 = y.getLsbD 7) : x = y := by
  apply BitVec.eq_of_getLsbD_eq
  intro i _
  by_cases h6 : i = 6
  · rw [h6, hA]
  · by_cases h7 : i = 7
    · rw [h7, hD]
    · exact h i h6 h7

/-- The flags of a PTE are its lowest bits. -/
theorem getLsbD_pteFlags (pte : BitVec 64) (i : ℕ) (hi : i < 8) :
    (pteFlags pte).getLsbD i = pte.getLsbD i := by
  unfold pteFlags
  rw [BitVec.getLsbD_extractLsb']
  simp [hi]

/-- A flag of a PTE is one of its bits. -/
theorem get_pteFlags (pte : BitVec 64) {k : ℕ} (hk : k < 8) :
    Field.get ⟨k, 1⟩ (pteFlags pte) = BitVec.ofBool (pte.getLsbD k) := by
  rw [Field.get_bit, getLsbD_pteFlags pte k hk]

/-- A flag outside A and D is the same in both PTEs. -/
theorem SameExceptAD.flag {x y : BitVec 64} (h : SameExceptAD x y) {k : ℕ} (hk : k < 8)
    (h6 : k ≠ 6) (h7 : k ≠ 7) :
    Field.get ⟨k, 1⟩ (pteFlags x) = Field.get ⟨k, 1⟩ (pteFlags y) := by
  rw [get_pteFlags x hk, get_pteFlags y hk, h k h6 h7]

/-- Whether a PTE needs no update for an access. -/
theorem updatePTEBits_eq_none {pte : BitVec 64} {ac : AccessType} :
    updatePTEBits pte ac = none
      ↔ pte.getLsbD 6 = true ∧ (dirties ac = true → pte.getLsbD 7 = true) := by
  unfold updatePTEBits
  simp only [get_pteFlags pte (k := 6) (by decide), get_pteFlags pte (k := 7) (by decide)]
  cases pte.getLsbD 6 <;> cases pte.getLsbD 7 <;> cases dirties ac <;> simp

/-- The bits of an updated PTE. -/
theorem getLsbD_updatePTEBits {pte pte' : BitVec 64} {ac : AccessType}
    (h : updatePTEBits pte ac = some pte') (i : ℕ) :
    pte'.getLsbD i = if i = 6 then true else if i = 7 then pte.getLsbD 7 || dirties ac
      else pte.getLsbD i := by
  unfold updatePTEBits at h
  simp only [get_pteFlags pte (k := 7) (by decide),
    Field.get_set_of_apart (show PTEFlags.D.Apart PTEFlags.A by decide)] at h
  split at h
  swap
  · cases h
  cases h
  rw [BitVec.getLsbD_append]
  by_cases hi : i < 8
  · rw [if_pos hi, Field.getLsbD_set]
    by_cases h7 : i = 7
    · subst h7
      cases hb : pte.getLsbD 7 <;> cases dirties ac <;> rfl
    · rw [if_neg (by simp only; omega), Field.getLsbD_set]
      by_cases h6 : i = 6
      · subst h6
        rfl
      · rw [if_neg (by simp only; omega), if_neg h6, if_neg h7, getLsbD_pteFlags pte i hi]
  · rw [if_neg hi, if_neg (by omega), if_neg (by omega), BitVec.getLsbD_extractLsb']
    by_cases h64 : i < 64
    · simp [show i - 8 < 56 by omega, show 8 + (i - 8) = i by omega]
    · simp [show ¬ i - 8 < 56 by omega, BitVec.getLsbD_of_ge pte i (by omega)]

/-- An update changes the A and D bits only. -/
theorem sameExceptAD_updatePTEBits {pte pte' : BitVec 64} {ac : AccessType}
    (h : updatePTEBits pte ac = some pte') : SameExceptAD pte pte' := by
  intro i h6 h7
  rw [getLsbD_updatePTEBits h i, if_neg h6, if_neg h7]

section SameExceptAD

variable {x y : BitVec 64} (h : SameExceptAD x y)
include h

theorem SameExceptAD.pteIsInvalid : pteIsInvalid (pteFlags x) = pteIsInvalid (pteFlags y) := by
  unfold SailRiscv.pteIsInvalid
  rw [h.flag (k := 0) (by decide) (by decide) (by decide),
    h.flag (k := 1) (by decide) (by decide) (by decide),
    h.flag (k := 2) (by decide) (by decide) (by decide)]

theorem SameExceptAD.pteIsPtr : pteIsPtr (pteFlags x) = pteIsPtr (pteFlags y) := by
  unfold SailRiscv.pteIsPtr
  rw [h.flag (k := 1) (by decide) (by decide) (by decide),
    h.flag (k := 2) (by decide) (by decide) (by decide),
    h.flag (k := 3) (by decide) (by decide) (by decide)]

theorem SameExceptAD.global : PTEFlags.G.get (pteFlags x) = PTEFlags.G.get (pteFlags y) :=
  h.flag (k := 5) (by decide) (by decide) (by decide)

theorem SameExceptAD.checkPTEPermission (ac : AccessType) (priv : Privilege) (mxr doSum : Bool) :
    checkPTEPermission ac priv mxr doSum (pteFlags x)
      = checkPTEPermission ac priv mxr doSum (pteFlags y) := by
  unfold SailRiscv.checkPTEPermission
  rw [h.flag (k := 1) (by decide) (by decide) (by decide),
    h.flag (k := 2) (by decide) (by decide) (by decide),
    h.flag (k := 3) (by decide) (by decide) (by decide),
    h.flag (k := 4) (by decide) (by decide) (by decide)]

theorem SameExceptAD.ppns {p : SVParams} (hp : p.ptePPNsLsbIndex = 10) :
    ppnsOfPTE p x = ppnsOfPTE p y := by
  unfold ppnsOfPTE
  rw [hp]
  congr 1
  apply BitVec.eq_of_getLsbD_eq
  intro i hi
  rw [BitVec.getLsbD_ushiftRight, BitVec.getLsbD_ushiftRight]
  exact h _ (by omega) (by omega)

end SameExceptAD

end SailRiscv
