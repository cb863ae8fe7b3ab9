/-
# The grain of the PMP

What the grain `G` guarantees about the ranges that `pmpCheck` matches against.  The
upper bound of every range that is not empty is a multiple of `2 ^ G` words.  So is the
lower bound, unless it is the address of a predecessor in NA4 or NAPOT mode, which the
grain masks for that mode.  The masked bits of the address registers do not matter: the
lowest `G` bits where they read as zeros, the lowest `G - 1` bits where they read as ones.
-/
import SailRiscv.PmpLock

namespace SailRiscv

open Bits Platform

variable [Platform]

/-! ## Alignment -/

/-- Read as a NAPOT address, an address has at least `G - 1` trailing ones. -/
theorem le_trailingOnes_grainRead (addr : Xlenbits) (h : sysPmpGrain - 1 ≤ xlen) :
    sysPmpGrain - 1 ≤ trailingOnes (grainRead true addr).toNat := by
  apply le_trailingOnes
  intro i hi
  rw [BitVec.testBit_toNat]
  unfold grainRead
  rw [if_pos rfl, BitVec.getLsbD_or, getLsbD_lowOnes]
  simp [hi, show i < xlen by omega]

/-- The range of a NAPOT entry that is not empty consists of whole grains. -/
theorem napot_aligned (addr : Xlenbits) {lo hi : Xlenbits}
    (hlo : lo.toNat = 2 ^ (trailingOnes (grainRead true addr).toNat + 1)
      * blockIndex (grainRead true addr).toNat)
    (hhi : hi.toNat = 2 ^ (trailingOnes (grainRead true addr).toNat + 1)
      * (blockIndex (grainRead true addr).toNat + 1) % 2 ^ xlen)
    (hne : lo < hi) : 2 ^ sysPmpGrain ∣ lo.toNat ∧ 2 ^ sysPmpGrain ∣ hi.toNat := by
  rw [BitVec.lt_def] at hne
  generalize hv : grainRead true addr = v at hlo hhi
  -- a block that does not wrap around ends below `2 ^ xlen`
  have hnowrap : v.toNat + 1 < 2 ^ xlen
      ∧ 2 ^ (trailingOnes v.toNat + 1) * (blockIndex v.toNat + 1) < 2 ^ xlen := by
    rcases Nat.lt_or_ge (v.toNat + 1) (2 ^ xlen) with h | h
    · refine ⟨h, lt_of_le_of_ne (block_end_le v h) ?_⟩
      intro heq
      rw [heq, Nat.mod_self] at hhi
      omega
    · obtain ⟨ht, hb⟩ := trailingOnes_of_allOnes v (by have := v.isLt; omega)
      rw [hb, ht, zero_add, mul_one, pow_succ, Nat.mul_mod_right] at hhi
      omega
  obtain ⟨hall, hend⟩ := hnowrap
  rw [Nat.mod_eq_of_lt hend] at hhi
  have hG : sysPmpGrain ≤ trailingOnes v.toNat + 1 := by
    have hlt := trailingOnes_lt v hall
    by_cases hx : sysPmpGrain - 1 ≤ xlen
    · have := le_trailingOnes_grainRead addr hx
      rw [hv] at this
      omega
    · -- the mask fills the register, which is then all ones
      have hge : xlen ≤ trailingOnes v.toNat := by
        apply le_trailingOnes
        intro i hi
        rw [← hv, BitVec.testBit_toNat]
        unfold grainRead
        rw [if_pos rfl, BitVec.getLsbD_or, getLsbD_lowOnes]
        simp [hi, show i < sysPmpGrain - 1 by omega]
      omega
  have hdvd := pow_dvd_pow 2 hG
  exact ⟨hlo ▸ Dvd.dvd.mul_right hdvd _, hhi ▸ Dvd.dvd.mul_right hdvd _⟩

/-- The predecessor of entry `i` is in NA4 or NAPOT mode. -/
def PrevHi (s : State) (i : Fin 64) : Prop :=
  ∃ p : Fin 64, p.val + 1 = i.val ∧ matchTypeHi (s.pmpcfg p) = true

/-- The lower bound that a TOR entry takes is aligned unless it is an address in NA4 or
NAPOT mode. -/
theorem prevPmpaddr_aligned {s : State} {i : Fin 64} (h : ¬ PrevHi s i) :
    2 ^ sysPmpGrain ∣ (prevPmpaddr s i).toNat := by
  rcases Nat.eq_zero_or_pos i.val with hi | hi
  · unfold prevPmpaddr
    rw [dif_neg (by omega)]
    simp
  · obtain ⟨p, hp⟩ : ∃ p : Fin 64, p.val + 1 = i.val :=
      ⟨⟨i.val - 1, by omega⟩, by simp only; omega⟩
    have hhi : matchTypeHi (s.pmpcfg p) = false := by
      by_contra hne
      exact h ⟨p, hp, by simpa using hne⟩
    rw [prevPmpaddr_eq hp, pmpReadAddrReg_eq, hhi, toNat_grainRead_false]
    exact Nat.dvd_mul_left _ _

/-- The address of a TOR entry is aligned. -/
theorem tor_aligned {s : State} {i : Fin 64} (h : pmpMatchType (s.pmpcfg i) = .TOR) :
    2 ^ sysPmpGrain ∣ (pmpReadAddrReg s i).toNat := by
  have hhi : matchTypeHi (s.pmpcfg i) = false := by
    rw [matchTypeHi_eq, h]
    rfl
  rw [pmpReadAddrReg_eq, hhi, toNat_grainRead_false]
  exact Nat.dvd_mul_left _ _

/-- The bounds of a range that is not empty. -/
theorem entryRange_aligned {s : State} (hlegal : PmpLegal s) {i : Fin 64} {lo hi : Xlenbits}
    (h : entryRange s i = .ok (some (lo, hi))) (hne : lo < hi) :
    2 ^ sysPmpGrain ∣ hi.toNat
      ∧ (¬ (pmpMatchType (s.pmpcfg i) = .TOR ∧ PrevHi s i) → 2 ^ sysPmpGrain ∣ lo.toNat) := by
  unfold entryRange pmpAddrRange at h
  cases hm : pmpMatchType (s.pmpcfg i) with
  | OFF => rw [hm] at h; cases h
  | TOR =>
      rw [hm] at h
      cases h
      refine ⟨tor_aligned hm, fun hprev => prevPmpaddr_aligned ?_⟩
      intro hp
      exact hprev ⟨rfl, hp⟩
  | NA4 =>
      rw [hlegal.na4 i hm]
      simp
  | NAPOT =>
      have hhi : matchTypeHi (s.pmpcfg i) = true := by
        rw [matchTypeHi_eq, hm]
        rfl
      rw [hm, pmpReadAddrReg_eq, hhi] at h
      cases h
      have hal := napot_aligned (s.pmpaddr i) (toNat_block_lo _) (toNat_block_hi _) hne
      exact ⟨hal.2, fun _ => hal.1⟩

/-- The assertion of `pmpAddrRange` about NA4 is not reached. -/
theorem entryRange_ok {s : State} (hlegal : PmpLegal s) (i : Fin 64) :
    ∃ rng, entryRange s i = .ok rng := by
  unfold entryRange pmpAddrRange
  cases hm : pmpMatchType (s.pmpcfg i) with
  | OFF => exact ⟨_, rfl⟩
  | TOR => exact ⟨_, rfl⟩
  | NA4 =>
      have hG := hlegal.na4 i hm
      rw [if_pos (by omega)]
      exact ⟨_, rfl⟩
  | NAPOT => exact ⟨_, rfl⟩

/-! ## The masked bits -/

/-- The address registers of two states agree on the bits that the grain does not mask. -/
def SameAboveGrain (s s' : State) : Prop :=
  s'.pmpcfg = s.pmpcfg ∧ ∀ i b,
    (if matchTypeHi (s.pmpcfg i) then sysPmpGrain - 1 else sysPmpGrain) ≤ b →
      (s'.pmpaddr i).getLsbD b = (s.pmpaddr i).getLsbD b

/-- The masked bits are not read. -/
theorem pmpReadAddrReg_of_sameAboveGrain {s s' : State} (h : SameAboveGrain s s')
    (i : Fin 64) : pmpReadAddrReg s' i = pmpReadAddrReg s i := by
  rw [pmpReadAddrReg_eq, pmpReadAddrReg_eq, h.1]
  have hbit := h.2 i
  unfold grainRead
  apply BitVec.eq_of_getLsbD_eq
  intro b hb
  cases hhi : matchTypeHi (s.pmpcfg i) with
  | true =>
      rw [hhi, if_pos rfl] at hbit
      rw [if_pos rfl, if_pos rfl, BitVec.getLsbD_or, BitVec.getLsbD_or, getLsbD_lowOnes]
      by_cases hlt : b < sysPmpGrain - 1
      · simp [hb, hlt]
      · rw [hbit b (by omega)]
  | false =>
      rw [hhi, if_neg (by simp)] at hbit
      rw [if_neg (by simp), if_neg (by simp), BitVec.getLsbD_and, BitVec.getLsbD_and,
        BitVec.getLsbD_not, getLsbD_lowOnes]
      by_cases hlt : b < sysPmpGrain
      · simp [hb, hlt]
      · rw [hbit b (by omega)]

/-- The range of an entry does not depend on the masked bits. -/
theorem entryRange_of_sameAboveGrain {s s' : State} (h : SameAboveGrain s s') (i : Fin 64) :
    entryRange s' i = entryRange s i := by
  unfold entryRange prevPmpaddr
  rw [h.1, pmpReadAddrReg_of_sameAboveGrain h i]
  split
  · rw [pmpReadAddrReg_of_sameAboveGrain h]
  · rfl

/-- **The grain.**  In every reachable state each entry has a range; a range that is not
empty ends at a multiple of the grain, and starts at one unless the entry is a TOR entry
after an entry in NA4 or NAPOT mode; and how an entry matches does not depend on the bits
of the address registers that the grain masks. -/
theorem pmp_grain {s : State} (h : PmpReachable s) (i : Fin 64) :
    (∃ rng, entryRange s i = .ok rng)
      ∧ (∀ lo hi, entryRange s i = .ok (some (lo, hi)) → lo < hi →
          2 ^ sysPmpGrain ∣ hi.toNat
            ∧ (¬ (pmpMatchType (s.pmpcfg i) = .TOR ∧ PrevHi s i) → 2 ^ sysPmpGrain ∣ lo.toNat))
      ∧ ∀ s', SameAboveGrain s s' → ∀ addr width,
          entryMatch s' i addr width = entryMatch s i addr width := by
  refine ⟨entryRange_ok h.legal i, fun lo hi hr hne => entryRange_aligned h.legal hr hne, ?_⟩
  intro s' hsame addr width
  unfold entryMatch
  rw [entryRange_of_sameAboveGrain hsame i]

omit [Platform] in
/-- The grain of a NAPOT entry of eight words under the grain 2. -/
theorem pmp_grain_napot :
    letI := rv32Pmp 2 (by decide)
    2 ^ 2 ∣ (8#32).toNat ∧ entryRange (configured [(0x3B0#12, 0x3#_), (0x3A0#12, 0x1F#_)]) 0
      = .ok (some (0#_, 8#_)) := by
  let := rv32Pmp 2 (by decide)
  have hr : entryRange (configured [(0x3B0#12, 0x3#_), (0x3A0#12, 0x1F#_)]) 0
      = .ok (some (0#_, 8#_)) := by decide +kernel
  exact ⟨((pmp_grain (pmpReachable_configured _) 0).2.1 _ _ hr (by decide)).1, hr⟩

omit [Platform] in
/-- Bit `G - 1` of the address of a NAPOT entry does matter: under the grain 1, bit 0 decides
whether the entry covers the aligned block of eight bytes at 8. -/
theorem pmp_grain_napot_bit :
    ¬ ∀ [Platform] (s : State) (i : Fin 64), PmpReachable s →
      (∀ lo hi, entryRange s i = .ok (some (lo, hi)) → lo < hi →
        2 ^ sysPmpGrain ∣ lo.toNat ∧ 2 ^ sysPmpGrain ∣ hi.toNat)
      ∧ ∀ s', PmpReachable s' → s'.pmpcfg = s.pmpcfg →
        (∀ j, s'.pmpaddr j >>> sysPmpGrain = s.pmpaddr j >>> sysPmpGrain) →
        ∀ addr width : Xlenbits,
          addr.toNat % 2 ^ (sysPmpGrain + 2) + width.toNat ≤ 2 ^ (sysPmpGrain + 2) →
          entryMatch s' i addr width = entryMatch s i addr width := by
  intro h
  let := rv32Pmp 1 (by decide)
  have hsame := (h (configured [(0x3B0#12, 0x0#_), (0x3A0#12, 0x1F#_)]) 0
    (pmpReachable_configured _)).2 (configured [(0x3B0#12, 0x1#_), (0x3A0#12, 0x1F#_)])
    (pmpReachable_configured _) (by decide +kernel) (by decide +kernel) 8#_ 4#_
    (by decide)
  exact absurd hsame (by decide)

end SailRiscv
