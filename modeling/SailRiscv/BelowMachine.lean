/-
# Steps below Machine mode

Bits 9 and 8 of the number of a CSR name the lowest privilege that may access it.  `write_CSR`
finds its clause by the whole number; the writes below the level of Machine mode nevertheless
change registers of their own level only (`keeps_writeCSR_below`).  `check_CSR` lets only these
through below Machine mode, and the returns from traps are refused there, apart from `SRET` in
Supervisor mode.  So every turn of the loop that begins below Machine mode is a step of each
relation that allows for the registers of the level of the hart (`Turns.rel_below`).
-/
import SailRiscv.StepRel

namespace SailRiscv

open Bits Platform

variable [Platform]

/-! ## Levels -/

/-- The lowest privilege that may access a CSR, as its number has it. -/
def csrLevel (csr : BitVec 12) : BitVec 2 := csr.extractLsb' 8 2

omit [Platform] in
/-- The level within the bits that select a block of registers. -/
theorem csrLevel_of_block (csr : BitVec 12) {lo n : ℕ} (hlo : lo ≤ 8) (hn : 10 ≤ lo + n) :
    csrLevel csr = (csr.extractLsb' lo n).extractLsb' (8 - lo) 2 := by
  unfold csrLevel
  apply BitVec.eq_of_getLsbD_eq
  intro i hi
  simp only [BitVec.getLsbD_extractLsb', hi, decide_true, Bool.true_and,
    show 8 - lo + i < n by omega, show lo + (8 - lo + i) = 8 + i by omega]

/-- The PMP configuration registers belong to Machine mode. -/
theorem csrLevel_pmpcfg {csr : BitVec 12}
    (h : (pmpcfgIdx csr).any pmpcfgEven = true) : csrLevel csr = 3#2 := by
  obtain ⟨n, hn⟩ : ∃ n, pmpcfgIdx csr = some n := by
    cases hidx : pmpcfgIdx csr with
    | none =>
        rw [hidx] at h
        cases h
    | some n => exact ⟨n, rfl⟩
  rw [csrLevel_of_block csr (show 4 ≤ 8 by decide) (show 10 ≤ 4 + 8 by decide),
    block_of_pmpcfgIdx hn]
  rfl

omit [Platform] in
/-- The PMP address registers belong to Machine mode. -/
theorem csrLevel_pmpaddr {csr : BitVec 12} (h : (pmpaddrIdx csr).isSome = true) :
    csrLevel csr = 3#2 := by
  obtain ⟨n, hn⟩ := Option.isSome_iff_exists.mp h
  rw [csrLevel_of_block csr (show 4 ≤ 8 by decide) (show 10 ≤ 4 + 8 by decide)]
  rcases block_of_pmpaddrIdx hn with hblock | hblock | hblock | hblock <;> rw [hblock] <;> rfl

omit [Platform] in
/-- The performance-monitoring registers that can be written belong to Machine mode. -/
theorem csrLevel_hpm {block : BitVec 7} {csr : BitVec 12} (h : (hpmIdx block csr).isSome = true)
    (hb : block.extractLsb' 3 2 = 3#2) : csrLevel csr = 3#2 := by
  unfold hpmIdx at h
  split at h
  · next hblock =>
      rw [csrLevel_of_block csr (show 5 ≤ 8 by decide) (show 10 ≤ 5 + 7 by decide), hblock.1]
      exact hb
  · cases h

/-! ## Registers of Supervisor mode -/

/-- The registers that only the CSRs of Supervisor mode give access to. -/
structure SupervisorRegs where
  stvec : Xlenbits
  scause : Xlenbits
  sepc : Xlenbits
  stval : Xlenbits
  sscratch : Xlenbits
  satp : Xlenbits
  senvcfg : Xlenbits
  scounteren : BitVec 32

/-- The registers of Supervisor mode in a state. -/
def State.supervisorRegs (s : State) : SupervisorRegs where
  stvec := s.stvec
  scause := s.scause
  sepc := s.sepc
  stval := s.stval
  sscratch := s.sscratch
  satp := s.satp
  senvcfg := s.senvcfg
  scounteren := s.scounteren

/-- The state with other registers of Supervisor mode. -/
def State.withSupervisor (s : State) (p : SupervisorRegs) : State :=
  { s with
    stvec := p.stvec
    scause := p.scause
    sepc := p.sepc
    stval := p.stval
    sscratch := p.sscratch
    satp := p.satp
    senvcfg := p.senvcfg
    scounteren := p.scounteren }

/-- The relation allows for writes of the CSRs of Supervisor mode. -/
class SupervisorCsrs (R : State → State → Prop) : Prop where
  regs : ∀ s p, R s (s.withSupervisor p)
  sstatus : ∀ s v, R s { s with mstatus := legalizeSstatus s s.mstatus v }
  sie : ∀ s v, R s { s with mie := legalizeSie s.mie s.mideleg v }

/-! ## Writes below Machine mode -/

section

variable {R : State → State → Prop} [InstRel R]

/-- A write of a register of Supervisor mode. -/
theorem keeps_writeSupervisor [SupervisorCsrs R] {write : State → State}
    {read : State → Xlenbits} (h : ∀ s, write s = s.withSupervisor (write s).supervisorRegs) :
    Exec.Keeps R (writeReg write read) := by
  refine keeps_writeReg (fun s => ?_)
  rw [h s]
  exact SupervisorCsrs.regs s _

/-- A write of a vector register. -/
theorem keeps_writeVec {write : State → State} {read : State → Xlenbits}
    (h : ∀ s, write s = s.withVec (write s).vecRegs) : Exec.Keeps R (writeReg write read) := by
  refine keeps_writeReg (fun s => ?_)
  rw [h s]
  exact InstRel.vec s _

instance keeps_step_writeFcsr (frm : BitVec 3) (fflags : BitVec 5) :
    Exec.Keeps R (writeFcsr frm fflags) := by
  have hset : Exec.Keeps R (Exec.update (fun s => { s with
      fcsr := Fcsr.FFLAGS.set (Fcsr.FRM.set s.fcsr frm) fflags }) : M Unit) :=
    Exec.keeps_update (fun s => InstRel.fp s s.f _)
  have hdirty : Exec.Keeps R dirtyFdContextIfPresent := keeps_of_stepView inferInstance
  unfold writeFcsr
  infer_instance

instance keeps_step_extWriteVcsr (vxrm : BitVec 2) (vxsat : BitVec 1) :
    Exec.Keeps R (extWriteVcsr vxrm vxsat) := by
  have hset : Exec.Keeps R (Exec.update (fun s => { s with
      vcsr := Vcsr.vxsat.set (Vcsr.vxrm.set s.vcsr vxrm) vxsat }) : M Unit) :=
    Exec.keeps_update (fun s => InstRel.vec s { s.vecRegs with vcsr := _ })
  have hdirty : Exec.Keeps R dirtyVContext := keeps_of_stepView inferInstance
  unfold extWriteVcsr dirtyVContextIfPresent
  infer_instance

/-- The write of `satp`. -/
theorem keeps_step_writeSatp [SupervisorCsrs R] (value : Xlenbits) :
    Exec.Keeps R (writeSatp value) := by
  have hset (arch : Architecture) : Exec.Keeps R (Exec.update (fun s => { s with
      satp := legalizeSatp arch s.satp value }) : M Unit) :=
    Exec.keeps_update (fun s => SupervisorCsrs.regs s { s.supervisorRegs with satp := _ })
  unfold writeSatp
  infer_instance

/-- The write of `sepc`. -/
theorem keeps_step_setXretTarget [SupervisorCsrs R] (value : Xlenbits) :
    Exec.Keeps R (setXretTarget .Supervisor value) := by
  have hset (target : Xlenbits) : Exec.Keeps R (Exec.update (fun s => { s with
      sepc := target }) : M Unit) :=
    Exec.keeps_update (fun s => SupervisorCsrs.regs s { s.supervisorRegs with sepc := target })
  unfold setXretTarget
  dsimp only
  infer_instance

/-- **Writes below the level of Machine mode change registers of their own level.**  A write of a
CSR of User mode is a step of every relation that allows for what instructions do; one of
Supervisor mode is, if the relation allows for writes of the registers of this mode. -/
theorem keeps_writeCSR_below {csr : BitVec 12} (hM : csrLevel csr ≠ 3#2)
    (hS : csrLevel csr = 1#2 → SupervisorCsrs R) (value : Xlenbits) :
    Exec.Keeps R (writeCSR csr value) := by
  unfold writeCSR
  repeat' first
    | (subst hc; exact absurd rfl hM)
    | (obtain ⟨rfl, -⟩ := hc; exact absurd rfl hM)
    | exact absurd (csrLevel_pmpcfg hc) hM
    | exact absurd (csrLevel_pmpaddr hc) hM
    | exact absurd (csrLevel_hpm hc rfl) hM
    | exact absurd (csrLevel_hpm hc.1 rfl) hM
    | (subst hc
       have hcsrs := hS rfl
       exact keeps_writeSupervisor (fun _ => rfl))
    | refine Exec.keeps_of_ite (fun hc => ?_) (fun hc => ?_)
  -- `sstatus`, `sip` and `sie` are views of the registers of Machine mode
  · subst hc
    have hcsrs := hS rfl
    exact keeps_writeReg (fun s => SupervisorCsrs.sstatus s value)
  · exact keeps_writeReg (fun s => DeviceClosed.devices s { s.deviceRegs with mip := _ })
  · subst hc
    have hcsrs := hS rfl
    exact keeps_writeReg (fun s => SupervisorCsrs.sie s value)
  -- `vstart` and the views of `vcsr`
  · exact keeps_writeVec (fun _ => rfl)
  · infer_instance
  · infer_instance
  · infer_instance
  -- `sepc`
  · subst hc
    have hcsrs := hS rfl
    exact keeps_step_setXretTarget value
  -- the entropy source ignores writes
  · infer_instance
  -- the views of `fcsr`
  · infer_instance
  · infer_instance
  · infer_instance
  · subst hc
    have hcsrs := hS rfl
    exact keeps_step_writeSatp value
  -- no clause: the model stops
  · infer_instance

/-! ## CSR instructions below Machine mode -/

omit [InstRel R] in
/-- `check_CSR` lets through the CSRs of the level of the hart and below. -/
theorem csrLevel_le_of_checkCSR {s : State} {csr : BitVec 12} {p : Privilege} {isWrite : Bool}
    (h : checkCSR s csr p isWrite = true) : csrLevel csr ≤ privLevelToBits p := by
  unfold checkCSR checkCSRAccess at h
  simp only [Bool.and_eq_true, decide_eq_true_eq] at h
  exact h.1.1.1.2.2

/-- **CSR instructions below Machine mode change registers of the level of the hart and below.** -/
theorem rel_zicsr_below {i : ZicsrInst} {s s' : State} {r : Retired}
    (hbelow : s.curPrivilege ≠ .Machine) (hS : s.curPrivilege = .Supervisor → SupervisorCsrs R)
    (hent : ∀ s, R s { s with entropy := fun n => s.entropy (n + 1) })
    (h : i.execute.run s = .ok (r, s')) : R s s' := by
  cases hc : checkCSR s i.csr s.curPrivilege (i.isWrite s) with
  | false =>
      unfold ZicsrInst.execute at h
      rw [Exec.run_bind_of_ok (Exec.run_reads _ _), Exec.run_bind_of_ok (Exec.run_reads _ _),
        Exec.run_bind_of_ok (Exec.run_reads _ _), hc, if_neg (by simp)] at h
      have hkeeps : Exec.Keeps R (do
          handleIllegal
          pure .RETIRE_FAIL : M Retired) := inferInstance
      exact hkeeps.rel h
  | true =>
      have hle := csrLevel_le_of_checkCSR hc
      have hM : csrLevel i.csr ≠ 3#2 := by
        intro h3
        rw [h3] at hle
        revert hle
        cases hp : s.curPrivilege with
        | User => decide
        | Supervisor => decide
        | Machine => exact absurd hp hbelow
      have hsup : csrLevel i.csr = 1#2 → SupervisorCsrs R := by
        intro h1
        refine hS ?_
        rw [h1] at hle
        revert hle
        cases hp : s.curPrivilege with
        | User => decide
        | Supervisor => exact fun _ => rfl
        | Machine => exact absurd hp hbelow
      have hkeeps : Exec.Keeps R i.execute :=
        keeps_zicsr (keeps_readCSR_of hent i.csr) (keeps_writeCSR_below hM hsup)
      exact hkeeps.rel h

end

/-! ## Turns of the loop below Machine mode -/

/-- The relation allows for what a turn of the loop below Machine mode changes besides, where the
hart is in User mode. -/
class TurnRel (R : State → State → Prop) : Prop extends StepRel R, TraceClosed R,
    ReservationClosed R, ClockClosed R where
  entropy : ∀ s e, R s { s with entropy := e }
  begin : ∀ s, R s s.begin
  endStep : ∀ r s, R s (endStep r s)

/-- The privilege is the same. -/
def SamePrivilege (s s' : State) : Prop := s'.curPrivilege = s.curPrivilege

instance : TlbClosed SamePrivilege where
  refl _ := rfl
  trans _ _ _ h h' := Eq.trans h' h
  devices _ _ := rfl
  store _ _ _ _ _ := rfl
  tlb _ _ _ := rfl

instance : TraceClosed SamePrivilege := ⟨fun _ _ => rfl⟩

section

variable [SoftFloat] {s s' : State}

omit [SoftFloat] in
/-- The instruction of a step executes at the privilege at which the step begins. -/
theorem Executes.curPrivilege {i : Ast} (h : Executes s i s') :
    s'.curPrivilege = s.curPrivilege := by
  have hfetch : Exec.Keeps SamePrivilege fetch := inferInstance
  rcases h with @⟨w, s₁, -, hrun, -⟩ | @⟨w, s₁, -, hrun⟩
  · have hsame : SamePrivilege s.begin s₁ := hfetch.rel hrun
    exact hsame
  · have hsame : SamePrivilege s.begin s₁ := hfetch.rel hrun
    exact hsame

variable {R : State → State → Prop} [TurnRel R]

/-- **Instructions below Machine mode.**  The relation has to allow for the registers of
Supervisor mode and for `SRET` only where the hart is in Supervisor mode. -/
theorem Ast.rel_below {i : Ast} {r : Retired} (heven : i.EvenOffset)
    (hbelow : s.curPrivilege ≠ .Machine) (hS : s.curPrivilege = .Supervisor → SupervisorCsrs R)
    (hsret : s.curPrivilege = .Supervisor → ∀ n, R s (s.sret n))
    (h : i.execute.run s = .ok (r, s')) : R s s' := by
  have hill : Exec.Keeps R illegal := keeps_of_stepView inferInstance
  by_cases hm : i = .BASE .MRET
  · subst hm
    change (do
      if (← Exec.reads State.curPrivilege) ≠ .Machine then illegal
      else xret .CTL_MRET : M Retired).run s = .ok (r, s') at h
    rw [Exec.run_bind_of_ok (Exec.run_reads _ _), if_pos hbelow] at h
    exact hill.rel h
  by_cases hs : i = .BASE .SRET
  · subst hs
    change (do
      if (← Exec.reads sretIllegal) then illegal else xret .CTL_SRET : M Retired).run s
        = .ok (r, s') at h
    rw [Exec.run_bind_of_ok (Exec.run_reads _ _)] at h
    split at h
    · exact hill.rel h
    · rename_i hlegal
      have hsup : s.curPrivilege = .Supervisor := by
        cases hp : s.curPrivilege with
        | User => exact absurd (by unfold sretIllegal; rw [hp]) hlegal
        | Supervisor => rfl
        | Machine => exact absurd hp hbelow
      unfold xret exceptionHandler at h
      rw [Exec.run_bind_of_ok (Exec.run_reads _ _),
        Exec.run_bind_of_ok (Exec.run_reads _ _)] at h
      obtain ⟨target, s₁, hexc, hset⟩ := Exec.run_bind_ok.mp h
      cases hexc
      cases hset
      exact hsret hsup _
  by_cases hcsr : ∃ z, i = .CSR z
  · obtain ⟨z, rfl⟩ := hcsr
    exact rel_zicsr_below hbelow hS (fun s => TurnRel.entropy s _) h
  · have hkeeps : Exec.Keeps R i.execute :=
      Ast.keeps_of (fun _ => inferInstance) (fun _ => inferInstance) heven
        (fun _ => inferInstance)
        (fun hx => absurd hx (by rintro (hx | hx); exacts [hm hx, hs hx]))
        (fun z hz => absurd ⟨z, hz⟩ hcsr)
    exact hkeeps.rel h

/-- **Turns of the loop that begin below Machine mode.** -/
theorem Turns.rel_below {t : Turn} (h : Turns t s s') (hbelow : s.curPrivilege ≠ .Machine)
    (hS : s.curPrivilege = .Supervisor → SupervisorCsrs R)
    (hsret : s.curPrivilege = .Supervisor → ∀ s₁ n, s₁.curPrivilege = .Supervisor →
      R s₁ (s₁.sret n)) : R s s' := by
  cases t with
  | tick => exact h.rel_of_tick
  | step =>
      obtain ⟨stepped, hstep⟩ := h
      obtain ⟨r, s₂, hout, rfl⟩ := step_cases hstep
      refine IsTrans.trans _ _ _ (TurnRel.begin s) (IsTrans.trans _ _ _ ?_ (TurnRel.endStep r s₂))
      refine hout.rel_of (R := R) (fun {i s₁} hi hrun => ?_)
      have hpriv := hi.curPrivilege
      exact Ast.rel_below hi.evenOffset (hpriv ▸ hbelow) (hpriv ▸ hS)
        (fun hsup n => hsret (hpriv ▸ hsup) s₁ n hsup) hrun

end

end SailRiscv
