/-
# Sub-accesses under the PMP

The scan of `pmpCheck` stops at the first entry that an access meets, and a smaller access can
meet fewer entries.  An entry that matches an access entirely or not at all does the same for
every access inside it; so an allowed access stays allowed when it shrinks, and an access that
no entry matches partially is decided as each of its bytes is.
-/
import SailRiscv.PmpRule

namespace SailRiscv

open Bits Platform

variable [Platform]

/-! ## Entries -/

section

variable {s : State} {addr a' : Xlenbits} {w w' : ℕ}

/-- The access of `w'` bytes at `a'` is inside the one of `w` bytes at `addr`. -/
theorem subAccess_bounds (hw' : 0 < w') (hsub : accessBytes a' w' ⊆ accessBytes addr w) :
    addr.toNat ≤ a'.toNat ∧ a'.toNat + w' ≤ addr.toNat + w := by
  unfold accessBytes at hsub
  rwa [Set.Ico_subset_Ico_iff (by omega)] at hsub

/-- A range that matches an access entirely or not at all matches every access inside it in
the same way. -/
theorem pmpMatchAddr_subAccess (hlt : w < 2 ^ xlen) (hw' : 0 < w')
    (hsub : accessBytes a' w' ⊆ accessBytes addr w) (rng : Option (Xlenbits × Xlenbits))
    (hm : pmpMatchAddr addr (BitVec.ofNat xlen w) rng ≠ .PMP_PartialMatch) :
    pmpMatchAddr a' (BitVec.ofNat xlen w') rng = pmpMatchAddr addr (BitVec.ofNat xlen w) rng := by
  obtain ⟨hlo, hhi⟩ := subAccess_bounds hw' hsub
  rcases rng with _ | ⟨lo, hi⟩
  · rfl
  · unfold pmpMatchAddr at hm ⊢
    simp only [BitVec.toNat_ofNat, Nat.mod_eq_of_lt hlt,
      Nat.mod_eq_of_lt (show w' < 2 ^ xlen by omega)] at hm ⊢
    by_cases hempty : hi.toNat * 4 ≤ lo.toNat * 4
    · rw [if_pos hempty, if_pos hempty]
    rw [if_neg hempty] at hm ⊢
    rw [if_neg hempty]
    by_cases hno : addr.toNat + w ≤ lo.toNat * 4 ∨ hi.toNat * 4 ≤ addr.toNat
    · rw [if_pos (by omega), if_pos hno]
    rw [if_neg hno] at hm ⊢
    by_cases hall : lo.toNat * 4 ≤ addr.toNat ∧ addr.toNat + w ≤ hi.toNat * 4
    · rw [if_neg (by omega), if_pos (by omega), if_pos hall]
    · rw [if_neg hall] at hm
      exact absurd rfl hm

/-- The same of an entry. -/
theorem entryMatch_subAccess (hlt : w < 2 ^ xlen) (hw' : 0 < w')
    (hsub : accessBytes a' w' ⊆ accessBytes addr w) (i : Fin 64)
    (hm : entryMatch s i addr (BitVec.ofNat xlen w) ≠ .ok .PMP_PartialMatch) :
    entryMatch s i a' (BitVec.ofNat xlen w') = entryMatch s i addr (BitVec.ofNat xlen w) := by
  unfold entryMatch at hm ⊢
  cases hrng : entryRange s i with
  | error e => rfl
  | ok rng =>
      rw [hrng] at hm
      refine congrArg Except.ok (pmpMatchAddr_subAccess hlt hw' hsub rng ?_)
      exact fun h => hm (congrArg Except.ok h)

/-! ## The scan -/

/-- An allowed access stays allowed when it shrinks. -/
theorem pmpCheckFrom_subAccess (hlt : w < 2 ^ xlen) (hw' : 0 < w')
    (hsub : accessBytes a' w' ⊆ accessBytes addr w) (acc : AccessType) (priv : Privilege)
    {is : List (Fin 64)}
    (h : pmpCheckFrom s addr (BitVec.ofNat xlen w) acc priv is = .ok none) :
    pmpCheckFrom s a' (BitVec.ofNat xlen w') acc priv is = .ok none := by
  induction is with
  | nil => exact h
  | cons i is ih =>
      rw [pmpCheckFrom, pmpMatchEntry_eq] at h ⊢
      -- the entry does not match partially, or the access would have failed there
      have hm : entryMatch s i addr (BitVec.ofNat xlen w) ≠ .ok .PMP_PartialMatch := by
        intro hpart
        rw [hpart] at h
        cases h
      rw [entryMatch_subAccess hlt hw' hsub i hm]
      cases hentry : entryMatch s i addr (BitVec.ofNat xlen w) with
      | error e =>
          rw [hentry] at h
          cases h
      | ok m =>
          rw [hentry] at h
          simp only [Except.map, bind, Except.bind] at h ⊢
          generalize matchVerdict (s.pmpcfg i) acc priv m = verdict at h ⊢
          cases verdict with
          | PMP_Success => rfl
          | PMP_Continue => exact ih h
          | PMP_Fail => cases h

/-- An access that no entry matches partially is decided as every access inside it. -/
theorem pmpCheckFrom_of_noPartial (hlt : w < 2 ^ xlen) (hw' : 0 < w')
    (hsub : accessBytes a' w' ⊆ accessBytes addr w) (acc : AccessType) (priv : Privilege)
    (hno : ∀ i, entryMatch s i addr (BitVec.ofNat xlen w) ≠ .ok .PMP_PartialMatch)
    (is : List (Fin 64)) :
    pmpCheckFrom s a' (BitVec.ofNat xlen w') acc priv is
      = pmpCheckFrom s addr (BitVec.ofNat xlen w) acc priv is := by
  induction is with
  | nil => rfl
  | cons i is ih =>
      rw [pmpCheckFrom, pmpCheckFrom, pmpMatchEntry_eq, pmpMatchEntry_eq,
        entryMatch_subAccess hlt hw' hsub i (hno i), ih]

/-! ## The check -/

/-- **The check is monotone in the access.**  In every state an allowed access allows every
access inside it; and an access that no entry matches partially is allowed if each of its bytes
is. -/
theorem pmpCheck_subAccess (s : State) (addr : Xlenbits) {w : ℕ} (hw : 0 < w)
    (hlt : w < 2 ^ xlen) (acc : AccessType) (priv : Privilege) :
    (pmpCheck s addr w acc priv = .ok none → ∀ (a' : Xlenbits) (w' : ℕ), 0 < w' →
        accessBytes a' w' ⊆ accessBytes addr w → pmpCheck s a' w' acc priv = .ok none)
      ∧ ((∀ b : Xlenbits, b.toNat ∈ accessBytes addr w → pmpCheck s b 1 acc priv = .ok none) →
        (∀ i, entryMatch s i addr (BitVec.ofNat xlen w) ≠ .ok .PMP_PartialMatch) →
        pmpCheck s addr w acc priv = .ok none) := by
  constructor
  · intro h a' w' hw' hsub
    exact pmpCheckFrom_subAccess hlt hw' hsub acc priv h
  · intro hbytes hno
    have hfirst : addr.toNat ∈ accessBytes addr w := by
      unfold accessBytes
      simp [hw]
    have hsub : accessBytes addr 1 ⊆ accessBytes addr w := by
      unfold accessBytes
      exact Set.Ico_subset_Ico_right (by omega)
    -- the first byte alone decides
    have hbyte := hbytes addr hfirst
    rw [pmpCheck, pmpCheckFrom_of_noPartial hlt one_pos hsub acc priv hno] at hbyte
    exact hbyte

end

omit [Platform] in
/-- A user's read of a word in the entry at 0 allows the read of its upper half. -/
theorem pmpCheck_upper_half_napotAtZero :
    letI := rv32Pmp 0 (by decide)
    pmpCheck napotAtZero 2#_ 2 .Read .User = .ok none := by
  let := rv32Pmp 0 (by decide)
  have hword : pmpCheck napotAtZero 0#_ 4 .Read .User = .ok none := by decide
  have hsub : accessBytes 2#_ 2 ⊆ accessBytes 0#_ 4 := by
    unfold accessBytes
    exact Set.Ico_subset_Ico (by decide) (by decide)
  exact (pmpCheck_subAccess napotAtZero 0#_ (by decide) (by decide) .Read .User).1 hword
    2#_ 2 (by decide) hsub

end SailRiscv
