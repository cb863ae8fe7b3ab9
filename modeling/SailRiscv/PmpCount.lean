/-
# Implemented PMP entries

The platform implements the first `sys_pmp_count` PMP entries.  `is_CSR_defined` compares
the number of a `pmpcfg` register with this count of entries, although each such register
holds four or eight of them, so that with 16 entries the registers `pmpcfg4` and up are
accepted too.  As long as no instruction writes one of these, the entries that the platform
does not implement stay off.
-/
import SailRiscv.Insts.Zicsr
import SailRiscv.PmpLock
import SailRiscv.Trap

namespace SailRiscv

open Bits Platform

variable [Platform]

/-! ## CSR instructions and the PMP registers -/

/-- A trap leaves the PMP registers alone. -/
theorem TrapEntry.samePmp {intr : Bool} {c : BitVec 8} {info : Option Xlenbits}
    {p : Privilege} {s s' : State} (h : TrapEntry intr c info s p s') : SamePmp s s' := by
  cases h <;> exact ⟨rfl, rfl⟩

instance keeps_samePmp_handleIllegal : Exec.Keeps SamePmp handleIllegal where
  rel h := by
    obtain ⟨info, hs⟩ := handleIllegal_cases h
    exact (handleSync_cases hs).samePmp

/-- A completed CSR instruction. -/
def CsrInstStep (i : ZicsrInst) (s s' : State) : Prop :=
  ∃ r, i.execute.run s = .ok (r, s')

/-- **What a CSR instruction does to the PMP registers.**  It leaves them alone, or it is
accepted as a write and writes its CSR. -/
theorem csrInstStep_cases {i : ZicsrInst} {s s' : State} (h : CsrInstStep i s s') :
    SamePmp s s'
      ∨ (i.isWrite s = true ∧ checkCSR s i.csr s.curPrivilege true = true
          ∧ ∃ value s₁ s₂, SamePmp s s₁ ∧ CsrStep (i.csr, value) s₁ s₂ ∧ SamePmp s₂ s') := by
  obtain ⟨r, h⟩ := h
  unfold ZicsrInst.execute at h
  rw [Exec.run_bind_of_ok (Exec.run_reads _ _), Exec.run_bind_of_ok (Exec.run_reads _ _),
    Exec.run_bind_of_ok (Exec.run_reads _ _)] at h
  cases hc : checkCSR s i.csr s.curPrivilege (i.isWrite s) with
  | false =>
      rw [hc, if_neg (by simp)] at h
      have hk : Exec.Keeps SamePmp (do
        handleIllegal
        pure Retired.RETIRE_FAIL : M Retired) := inferInstance
      exact Or.inl (hk.rel h)
  | true =>
      rw [hc, if_pos rfl] at h
      obtain ⟨csrVal, s₁, hread, h⟩ := Exec.run_bind_ok.mp h
      have h₁ : SamePmp s s₁ := (keeps_frame_readCSR i.csr).rel hread |>.samePmp
      cases hw : i.isWrite s with
      | false =>
          rw [hw, if_neg (by simp)] at h
          have hk : Exec.Keeps SamePmp (do
            wX i.rd csrVal
            pure Retired.RETIRE_SUCCESS : M Retired) := inferInstance
          exact Or.inl (IsTrans.trans _ _ _ h₁ (hk.rel h))
      | true =>
          rw [hw, if_pos rfl] at h
          rw [hw] at hc
          obtain ⟨_, s₂, hwrite, h⟩ := Exec.run_bind_ok.mp h
          have hk : Exec.Keeps SamePmp (do
            wX i.rd csrVal
            pure Retired.RETIRE_SUCCESS : M Retired) := inferInstance
          exact Or.inr ⟨rfl, hc, _, s₁, s₂, h₁, ⟨_, hwrite⟩, hk.rel h⟩

/-! ## The entries that are not implemented -/

/-- An accepted write to a configuration register all of whose entries are missing. -/
def WritesMissingCfg (s : State) (i : ZicsrInst) : Prop :=
  i.isWrite s = true ∧ checkCSR s i.csr s.curPrivilege true = true
    ∧ ∃ n, pmpcfgIdx i.csr = some n ∧ sysPmpCount ≤ n.val * 4

/-- The entries that the platform does not implement are off. -/
def MissingOff (s : State) : Prop :=
  ∀ j : Fin 64, sysPmpCount ≤ j.val → pmpMatchType (s.pmpcfg j) = .OFF

/-- A configuration register whose first entry is implemented holds implemented entries
only, for the counts that `init_pmp` accepts. -/
theorem writtenCfg_of_missing (hcount : sysPmpCount = 0 ∨ sysPmpCount = 16 ∨ sysPmpCount = 64)
    {csr : BitVec 12} (hok : ∀ n, pmpcfgIdx csr = some n → n.val * 4 < sysPmpCount)
    (value : Xlenbits) {j : Fin 64} (hj : sysPmpCount ≤ j.val) :
    writtenCfg csr value j = none := by
  unfold writtenCfg
  cases hn : pmpcfgIdx csr with
  | none => rfl
  | some n =>
      have hlt := hok n hn
      have hnot : ¬ (pmpcfgEven n = true ∧ n.val * 4 ≤ j.val
          ∧ j.val < n.val * 4 + cfgsPerReg) := by
        rintro ⟨heven, hle, hlt'⟩
        unfold cfgsPerReg at hlt'
        unfold pmpcfgEven at heven
        by_cases hx : xlen = 32
        · rw [if_pos hx] at hlt'
          omega
        · rw [if_neg hx] at hlt'
          simp only [hx, decide_false, Bool.or_false, beq_iff_eq] at heven
          omega
      exact if_neg hnot

/-- A CSR instruction that does not write a missing configuration keeps the missing entries
off. -/
theorem MissingOff.step (hcount : sysPmpCount = 0 ∨ sysPmpCount = 16 ∨ sysPmpCount = 64)
    {s s' : State} {i : ZicsrInst} (hoff : MissingOff s) (hok : ¬ WritesMissingCfg s i)
    (hstep : CsrInstStep i s s') : MissingOff s' := by
  intro j hj
  rcases csrInstStep_cases hstep with hsame | ⟨hw, hc, value, s₁, s₂, h₁, ⟨r, hr⟩, h₂⟩
  · rw [hsame.1]
    exact hoff j hj
  · have hnone : writtenCfg i.csr value j = none := by
      refine writtenCfg_of_missing hcount (fun n hn => ?_) value hj
      by_contra hge
      exact hok ⟨hw, hc, n, hn, by omega⟩
    rw [h₂.1, writeCSR_pmpcfg_apply hr j, hnone, Option.elim_none, h₁.1]
    exact hoff j hj

/-- **Missing entries stay off.**  From a reset, in every run of CSR instructions none of
which is an accepted write to the configuration of missing entries, the missing entries are
off and match no access. -/
theorem missingOff_of_run (hcount : sysPmpCount = 0 ∨ sysPmpCount = 16 ∨ sysPmpCount = 64)
    {s₀ s : State} (hreset : PmpReset s₀)
    (hrun : Run CsrInstStep (fun s i => ¬ WritesMissingCfg s i) s₀ s) (j : Fin 64)
    (hj : sysPmpCount ≤ j.val) :
    pmpMatchType (s.pmpcfg j) = .OFF
      ∧ ∀ addr width, entryMatch s j addr width = .ok .PMP_NoMatch := by
  have hoff₀ : MissingOff s₀ := by
    intro i _
    rw [hreset.1 i]
    decide
  have hoff := hrun.invariant hoff₀ (fun hi hok hs => MissingOff.step hcount hi hok hs) j hj
  refine ⟨hoff, fun addr width => ?_⟩
  unfold entryMatch entryRange pmpAddrRange
  rw [hoff]
  rfl

/-- M-mode with zeroed registers. -/
def machineZero : State := { State.zero (fun _ => 0#8) with curPrivilege := .Machine }

/-- `csrrwi x0, pmpcfg<n>, 24`, which selects NAPOT for entry `4 * n`. -/
def selectNapot (n : BitVec 4) : ZicsrInst := ⟨0x3A#8 ++ n, 24#5, 0#5, true, .CSRRW⟩

omit [Platform] in
/-- With 16 entries, a write to `pmpcfg0` leaves entry 16 off. -/
theorem missingOff_of_run_pmpcfg0 :
    letI := rv64Pmp 16 (by decide)
    ∃ s, Run CsrInstStep (fun s i => ¬ WritesMissingCfg s i) machineZero s
      ∧ pmpMatchType (s.pmpcfg 0) = .NAPOT ∧ pmpMatchType (s.pmpcfg 16) = .OFF := by
  let := rv64Pmp 16 (by decide)
  have hrun : Run CsrInstStep (fun s i => ¬ WritesMissingCfg s i) machineZero
      (((selectNapot 0#4).execute.run machineZero).toOption.elim machineZero Prod.snd) := by
    refine .next (l := selectNapot 0#4) .start ?_ ⟨.RETIRE_SUCCESS, rfl⟩
    rintro ⟨-, -, n, hn, hle⟩
    have hzero : pmpcfgIdx (selectNapot 0#4).csr = some 0 := by decide
    rw [hzero] at hn
    cases hn
    exact absurd hle (by decide)
  exact ⟨_, hrun, by decide,
    (missingOff_of_run (by decide) ⟨fun _ => rfl, fun _ => rfl⟩ hrun 16 (by decide)).1⟩

omit [Platform] in
/-- With 16 entries, `pmpcfg4` is accepted and turns the missing entry 16 on. -/
theorem pmpcfg4_activates_missing :
    ¬ ∀ [Platform], (sysPmpCount = 0 ∨ sysPmpCount = 16 ∨ sysPmpCount = 64) →
      ∀ s₀ s : State, PmpReset s₀ → Run CsrInstStep Run.Free s₀ s → MissingOff s := by
  intro h
  let := rv64Pmp 16 (by decide)
  have hrun : Run CsrInstStep Run.Free machineZero
      (((selectNapot 4#4).execute.run machineZero).toOption.elim machineZero Prod.snd) :=
    .next (l := selectNapot 4#4) .start trivial ⟨.RETIRE_SUCCESS, rfl⟩
  have hoff := h (by decide) machineZero _ ⟨fun _ => rfl, fun _ => rfl⟩ hrun 16 (by decide)
  exact absurd hoff (by decide)

end SailRiscv
