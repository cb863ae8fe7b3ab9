/-
# Locked PMP entries

How far the lock bit of a PMP entry protects the entry.  The registers of a locked entry
are never written, but the lower bound of a TOR entry is read from its predecessor, and
the grain masks that value according to the predecessor's own match type.  A write that
moves an unlocked predecessor into or out of NAPOT therefore moves the bound.

* `MovesTorBound i s w` : the CSR writes with this effect on entry `i`;
* `entryUnchanged_of_run` : every other CSR write leaves a locked entry as it is.
-/
import SailRiscv.PmpRegs

namespace SailRiscv

open Bits Platform

variable [Platform]

/-! ## Reading through the grain -/

/-- The value read from an address register that stores `addr`; `hi` is bit 1 of the
match type of the entry. -/
def grainRead (hi : Bool) (addr : Xlenbits) : Xlenbits :=
  if hi then addr ||| lowOnes xlen (sysPmpGrain - 1) else addr &&& ~~~lowOnes xlen sysPmpGrain

/-- Bit 1 of the match type of an entry. -/
def matchTypeHi (cfg : BitVec 8) : Bool := (Pmpcfg.A.get cfg).getLsbD 1

omit [Platform] in
theorem matchTypeHi_eq (cfg : BitVec 8) :
    matchTypeHi cfg = decide (pmpMatchType cfg = .NA4 ∨ pmpMatchType cfg = .NAPOT) := by
  revert cfg
  decide

/-- `pmpReadAddrReg`, with the cases of the grain folded into the masks. -/
theorem pmpReadAddrReg_eq (s : State) (n : Fin 64) :
    pmpReadAddrReg s n = grainRead (matchTypeHi (s.pmpcfg n)) (s.pmpaddr n) := by
  have hzero : lowOnes xlen 0 = 0#_ := by
    apply BitVec.eq_of_getLsbD_eq
    simp [getLsbD_lowOnes]
  unfold pmpReadAddrReg grainRead
  rw [lowOnes_min, lowOnes_min, show (Pmpcfg.A.get (s.pmpcfg n)).getLsbD 1
    = matchTypeHi (s.pmpcfg n) from rfl]
  cases matchTypeHi (s.pmpcfg n) with
  | true =>
      by_cases hG : 2 ≤ sysPmpGrain
      · simp [hG]
      · simp [hG, show sysPmpGrain - 1 = 0 by omega, hzero]
  | false =>
      by_cases hG : 1 ≤ sysPmpGrain
      · simp [hG]
      · simp [show sysPmpGrain = 0 by omega, hzero]

/-- Cleared by the grain, a value is rounded down to a multiple of `2 ^ G`. -/
theorem toNat_grainRead_false (addr : Xlenbits) :
    (grainRead false addr).toNat = addr.toNat / 2 ^ sysPmpGrain * 2 ^ sysPmpGrain :=
  toNat_and_not_lowOnes addr sysPmpGrain

/-- Both ways of reading an address agree above the grain. -/
theorem grainRead_div (hi : Bool) (addr : Xlenbits) :
    (grainRead hi addr).toNat / 2 ^ sysPmpGrain = addr.toNat / 2 ^ sysPmpGrain := by
  cases hi with
  | false =>
      rw [toNat_grainRead_false, Nat.mul_div_cancel _ (Nat.two_pow_pos _)]
  | true =>
      apply Nat.eq_of_testBit_eq
      intro i
      rw [Nat.testBit_div_two_pow, Nat.testBit_div_two_pow, BitVec.testBit_toNat,
        BitVec.testBit_toNat]
      unfold grainRead
      rw [if_pos rfl, BitVec.getLsbD_or, getLsbD_lowOnes]
      simp [show ¬ i + sysPmpGrain < sysPmpGrain - 1 by omega]

/-- Whether a value lies below a multiple of `2 ^ G` does not depend on how it is read. -/
theorem grainRead_lt_iff (hi hi' : Bool) (lo addr : Xlenbits) :
    grainRead hi lo < grainRead false addr ↔ grainRead hi' lo < grainRead false addr := by
  have hdiv (b : Bool) : grainRead b lo < grainRead false addr
      ↔ lo.toNat / 2 ^ sysPmpGrain < addr.toNat / 2 ^ sysPmpGrain := by
    rw [BitVec.lt_def, toNat_grainRead_false, ← Nat.div_lt_iff_lt_mul (Nat.two_pow_pos _),
      grainRead_div]
  rw [hdiv, hdiv]

/-- The two ways of reading an address agree when the grain has nothing to mask. -/
theorem grainRead_eq_of_small (addr : Xlenbits)
    (h : sysPmpGrain = 0 ∨ (sysPmpGrain = 1 ∧ addr.getLsbD 0 = false)) (hi : Bool) :
    grainRead hi addr = addr := by
  unfold grainRead
  apply BitVec.eq_of_getLsbD_eq
  intro i hlt
  cases hi with
  | true =>
      rw [if_pos rfl, BitVec.getLsbD_or, getLsbD_lowOnes]
      simp [show ¬ i < sysPmpGrain - 1 by omega]
  | false =>
      rw [if_neg (by simp), BitVec.getLsbD_and, BitVec.getLsbD_not, getLsbD_lowOnes]
      by_cases hG : i < sysPmpGrain
      · have hi0 : i = 0 := by omega
        have hbit : addr.getLsbD 0 = false := by
          rcases h with h | h
          · omega
          · exact h.2
        simp [hi0, hbit]
      · simp [hG, hlt]

/-! ## What an entry does with an access -/

/-- How entry `i` matches an access, as `pmpCheck` evaluates it. -/
def entryMatch (s : State) (i : Fin 64) (addr width : Xlenbits) : Except ModelError PmpAddrMatch :=
  (entryRange s i).map (pmpMatchAddr addr width)

/-- Entry `i` matches the same accesses in both states, with the same permissions. -/
def EntryUnchanged (i : Fin 64) (s s' : State) : Prop :=
  s'.pmpcfg i = s.pmpcfg i ∧ ∀ addr width, entryMatch s' i addr width = entryMatch s i addr width

/-- A CSR write that moves the lower bound of entry `i`: there is a grain, the entry is a
TOR entry with a non-empty range, and the write switches its unlocked predecessor into
or out of NAPOT, where the stored address is read differently. -/
def MovesTorBound (i : Fin 64) (s : State) (w : BitVec 12 × Xlenbits) : Prop :=
  ∃ (p : Fin 64) (b : BitVec 8), p.val + 1 = i.val
    ∧ pmpMatchType (s.pmpcfg i) = .TOR
    ∧ prevPmpaddr s i < pmpReadAddrReg s i
    ∧ pmpLocked (s.pmpcfg p) = false
    ∧ writtenCfg w.1 w.2 p = some b
    ∧ ¬ (pmpMatchType b = .NAPOT ↔ pmpMatchType (s.pmpcfg p) = .NAPOT)
    ∧ (2 ≤ sysPmpGrain ∨ (sysPmpGrain = 1 ∧ (s.pmpaddr p).getLsbD 0 = true))

/-- The predecessor's value, when there is a predecessor. -/
theorem prevPmpaddr_eq {s : State} {i p : Fin 64} (h : p.val + 1 = i.val) :
    prevPmpaddr s i = pmpReadAddrReg s p := by
  unfold prevPmpaddr
  rw [dif_pos (by omega)]
  congr 1
  ext
  simp only
  omega

/-- The entry after `p`, seen from `p`. -/
theorem nextTORLocked_eq {s : State} {i p : Fin 64} (h : p.val + 1 = i.val) :
    nextTORLocked s p = pmpTORLocked (s.pmpcfg i) := by
  unfold nextTORLocked
  rw [dif_pos (by omega)]
  congr 2
  ext
  exact h

section Step

variable {s s' : State} {i : Fin 64} {w : BitVec 12 × Xlenbits}

/-- The configuration of a locked entry is not written. -/
theorem pmpcfg_of_locked (hl : pmpLocked (s.pmpcfg i) = true) (hstep : CsrStep w s s') :
    s'.pmpcfg i = s.pmpcfg i := by
  obtain ⟨r, hr⟩ := hstep
  rw [writeCSR_pmpcfg_apply hr i]
  cases writtenCfg w.1 w.2 i with
  | none => rfl
  | some b => exact pmpWriteCfg_of_locked hl b

/-- The address of a locked entry, and of the entry before a locked TOR entry, is not
written. -/
theorem pmpaddr_of_locked (h : (pmpLocked (s.pmpcfg i) || nextTORLocked s i) = true)
    (hstep : CsrStep w s s') : s'.pmpaddr i = s.pmpaddr i := by
  obtain ⟨r, hr⟩ := hstep
  rw [writeCSR_pmpaddr_apply hr i]
  unfold pmpWriteAddr
  rw [if_pos h]
  simp

/-- The value read from a locked entry stays the same. -/
theorem pmpReadAddrReg_of_locked (hl : pmpLocked (s.pmpcfg i) = true)
    (hstep : CsrStep w s s') : pmpReadAddrReg s' i = pmpReadAddrReg s i := by
  rw [pmpReadAddrReg_eq, pmpReadAddrReg_eq, pmpcfg_of_locked hl hstep,
    pmpaddr_of_locked (by rw [hl]; rfl) hstep]

/-- Bit 1 of an entry's match type changes only by a write that switches the entry, unlocked,
into or out of NAPOT, once NA4 is excluded. -/
theorem matchTypeHi_step (hlegal : PmpLegal s) (hG : 1 ≤ sysPmpGrain) (p : Fin 64)
    (hstep : CsrStep w s s')
    (hkeep : ∀ b, pmpLocked (s.pmpcfg p) = false → writtenCfg w.1 w.2 p = some b →
      (pmpMatchType b = .NAPOT ↔ pmpMatchType (s.pmpcfg p) = .NAPOT)) :
    matchTypeHi (s'.pmpcfg p) = matchTypeHi (s.pmpcfg p) := by
  have hlegal' := hlegal.step hstep
  obtain ⟨r, hr⟩ := hstep
  have hne : pmpMatchType (s.pmpcfg p) ≠ .NA4 := by
    intro h
    have := hlegal.na4 p h
    omega
  have hne' : pmpMatchType (s'.pmpcfg p) ≠ .NA4 := by
    intro h
    have := hlegal'.na4 p h
    omega
  rw [matchTypeHi_eq, matchTypeHi_eq]
  simp only [hne, hne', false_or, decide_eq_decide]
  rw [writeCSR_pmpcfg_apply hr p]
  cases hw : writtenCfg w.1 w.2 p with
  | none => rfl
  | some b =>
      rw [Option.elim_some]
      cases hl : pmpLocked (s.pmpcfg p) with
      | true => rw [pmpWriteCfg_of_locked hl]
      | false =>
          rw [pmpMatchType_pmpWriteCfg hl, ← hkeep b hl hw]
          by_cases hna4 : pmpMatchType b = .NA4
          · simp [hna4, hG]
          · simp [hna4]

/-- An empty range matches nothing. -/
theorem pmpMatchAddr_of_empty {lo hi : Xlenbits} (h : ¬ lo < hi) (addr width : Xlenbits) :
    pmpMatchAddr addr width (some (lo, hi)) = .PMP_NoMatch := by
  have hle : hi.toNat * 4 ≤ lo.toNat * 4 := by
    rw [BitVec.lt_def] at h
    omega
  unfold pmpMatchAddr
  simp [hle]

/-- **One step.**  A CSR write that does not move the bound of a locked entry leaves the
entry as it is. -/
theorem EntryUnchanged.of_step (hlegal : PmpLegal s) (hl : pmpLocked (s.pmpcfg i) = true)
    (hok : ¬ MovesTorBound i s w) (hstep : CsrStep w s s') : EntryUnchanged i s s' := by
  have hcfg := pmpcfg_of_locked hl hstep
  refine ⟨hcfg, fun addr width => ?_⟩
  unfold entryMatch entryRange
  rw [hcfg, pmpReadAddrReg_of_locked hl hstep]
  by_cases htor : pmpMatchType (s.pmpcfg i) = .TOR
  swap
  · -- only TOR reads the predecessor
    unfold pmpAddrRange
    cases hm : pmpMatchType (s.pmpcfg i) <;> first | rfl | exact absurd hm htor
  rcases Nat.eq_zero_or_pos i.val with hi0 | hi0
  · unfold prevPmpaddr
    rw [dif_neg (by omega), dif_neg (by omega)]
  obtain ⟨p, hp⟩ : ∃ p : Fin 64, p.val + 1 = i.val := ⟨⟨i.val - 1, by omega⟩, by simp only; omega⟩
  have htl : nextTORLocked s p = true := by
    rw [nextTORLocked_eq hp]
    unfold pmpTORLocked
    rw [htor]
    simpa [pmpLocked] using hl
  have haddr : s'.pmpaddr p = s.pmpaddr p := pmpaddr_of_locked (by rw [htl, Bool.or_true]) hstep
  rw [prevPmpaddr_eq hp, prevPmpaddr_eq hp, pmpReadAddrReg_eq s' p, pmpReadAddrReg_eq s p, haddr]
  by_cases hsmall : sysPmpGrain = 0 ∨ (sysPmpGrain = 1 ∧ (s.pmpaddr p).getLsbD 0 = false)
  · rw [grainRead_eq_of_small _ hsmall, grainRead_eq_of_small _ hsmall]
  by_cases hne : prevPmpaddr s i < pmpReadAddrReg s i
  · -- the range is not empty, so the write does not switch the predecessor
    rw [matchTypeHi_step hlegal (by omega) p hstep]
    intro b hlp hw
    by_contra hflip
    refine hok ⟨p, b, hp, htor, hne, hlp, hw, hflip, ?_⟩
    by_cases h1 : sysPmpGrain = 1
    · refine Or.inr ⟨h1, ?_⟩
      by_contra hbit
      exact hsmall (Or.inr ⟨h1, by simpa using hbit⟩)
    · refine Or.inl ?_
      by_contra h2
      exact hsmall (Or.inl (by omega))
  · -- the range is empty on both sides
    have hhi : pmpReadAddrReg s i = grainRead false (s.pmpaddr i) := by
      rw [pmpReadAddrReg_eq, matchTypeHi_eq, htor]
      rfl
    rw [prevPmpaddr_eq hp, pmpReadAddrReg_eq s p, hhi] at hne
    have hempty (b : Bool) : ¬ grainRead b (s.pmpaddr p) < grainRead false (s.pmpaddr i) := by
      rwa [grainRead_lt_iff b (matchTypeHi (s.pmpcfg p))]
    unfold pmpAddrRange
    rw [htor, hhi]
    simp only [Except.map, pmpMatchAddr_of_empty (hempty _)]

end Step

/-! ## Runs -/

/-- A locked entry is left as it is by every run of CSR writes none of which moves its
lower bound. -/
theorem entryUnchanged_of_run {s₀ s : State} {i : Fin 64} (hreach : PmpReachable s₀)
    (hl : pmpLocked (s₀.pmpcfg i) = true)
    (hrun : Run CsrStep (fun s w => ¬ MovesTorBound i s w) s₀ s) : EntryUnchanged i s₀ s := by
  have hboth : PmpLegal s ∧ EntryUnchanged i s₀ s := by
    refine Run.invariant (I := fun s => PmpLegal s ∧ EntryUnchanged i s₀ s) hrun
      ⟨hreach.legal, rfl, fun _ _ => rfl⟩ ?_
    rintro s w s' ⟨hlegal, hsame⟩ hok hstep
    have hone := EntryUnchanged.of_step hlegal (by rw [hsame.1]; exact hl) hok hstep
    refine ⟨hlegal.step hstep, hone.1.trans hsame.1, fun addr width => ?_⟩
    rw [hone.2, hsame.2]
  exact hboth.2

/-- A locked TOR entry above `0`, under the grain 2: `pmpaddr1` is `0x100` and entry 1 is
locked and readable. -/
def lockedTor : State := configured [(0x3B1#12, 0x100#_), (0x3A0#12, 0x8900#_)]

omit [Platform] in
/-- The locked TOR entry survives an attempt to turn it off. -/
theorem entryUnchanged_of_run_lockedTor :
    letI := rv32Pmp 2 (by decide)
    EntryUnchanged 1 lockedTor (afterWrites lockedTor [(0x3A0#12, 0#_)]) := by
  let := rv32Pmp 2 (by decide)
  refine entryUnchanged_of_run (pmpReachable_configured _) (by decide) ?_
  apply run_afterWrites_one
  rintro ⟨p, b, hp, -, -, -, hw, hflip, -⟩
  obtain rfl : p = 0 := by ext; simpa using hp
  obtain rfl : b = 0#8 := by
    rw [show writtenCfg 0x3A0#12 0#_ 0 = some 0#8 by decide] at hw
    exact (Option.some.inj hw).symm
  exact hflip (by decide)

omit [Platform] in
/-- A write to the unlocked entry 0 that selects NAPOT takes the lowest word away from the
locked TOR entry 1. -/
theorem lockedTor_bound_moves :
    ¬ ∀ [Platform] (s₀ s : State) (i : Fin 64), PmpReachable s₀ →
      pmpLocked (s₀.pmpcfg i) = true → Run CsrStep Run.Free s₀ s → EntryUnchanged i s₀ s := by
  intro h
  let := rv32Pmp 2 (by decide)
  have hsame := (h lockedTor (afterWrites lockedTor [(0x3A0#12, 0x18#_)]) 1
    (pmpReachable_configured _) (by decide) (run_afterWrites _ _)).2 0#_ 4#_
  exact absurd hsame (by decide)

end SailRiscv
