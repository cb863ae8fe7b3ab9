/-
# Which CSRs can be accessed

The three scattered functions on CSR numbers agree: an access that `check_CSR` lets through
is handled by a clause of `read_CSR`, and of `write_CSR` when it is a write
(`csr_dispatch_complete`).  The CSRs of the vector unit are let through whether or not its
context is on (`vectorCsr_protected_iff`).
-/
import SailRiscv.Lib.Completes
import SailRiscv.Insts.Zicsr
import SailRiscv.PmpCount

namespace SailRiscv

open Bits Platform

variable [Platform]

/-! ## Reads and writes that complete -/

instance completes_writeReg (write : State → State) (read : State → Xlenbits) :
    Exec.Completes (writeReg write read) := by
  unfold writeReg
  infer_instance

instance completes_readSeedCsr : Exec.Completes readSeedCsr := by
  unfold readSeedCsr
  infer_instance

instance completes_extWriteVcsr (vxrm : BitVec 2) (vxsat : BitVec 1) :
    Exec.Completes (extWriteVcsr vxrm vxsat) := by
  unfold extWriteVcsr dirtyVContextIfPresent
  refine @Exec.completes_bind _ _ _ _ _ _ _ (fun _ => ?_)
  by_cases h : sysEnableVext = true
  · rw [if_pos h]
    unfold dirtyVContext assert
    rw [if_pos h]
    infer_instance
  · rw [if_neg h]
    infer_instance

instance completes_pmpWriteAddrReg (n : Fin 64) (v : Xlenbits) :
    Exec.Completes (pmpWriteAddrReg n v) := by
  unfold pmpWriteAddrReg
  infer_instance

/-- A configuration register that exists can be read. -/
theorem completes_readCfg {n : Fin 16} (h : pmpcfgEven n = true) :
    Exec.Completes (Exec.checks (fun s => pmpReadCfgReg s n)) where
  run_ok s := by
    unfold pmpcfgEven at h
    by_cases hx : xlen = 32
    · refine ⟨packCfg s (n.val * 4) 4, s, ?_⟩
      rw [Exec.run_checks_ok]
      unfold pmpReadCfgReg
      rw [if_pos hx]
      exact ⟨rfl, rfl⟩
    · refine ⟨packCfg s (n.val * 4) 8, s, ?_⟩
      rw [Exec.run_checks_ok]
      unfold pmpReadCfgReg
      rw [if_neg hx, if_pos (by simpa [hx] using h)]
      exact ⟨rfl, rfl⟩

/-- A configuration register that exists can be written. -/
theorem completes_writeCfg {n : Fin 16} (h : pmpcfgEven n = true) (v : Xlenbits) :
    Exec.Completes (pmpWriteCfgReg n v) where
  run_ok s := ⟨(), _, run_pmpWriteCfgReg h v s⟩

instance completes_setXretTarget_M (v : Xlenbits) :
    Exec.Completes (setXretTarget .Machine v) := by
  unfold setXretTarget
  infer_instance

instance completes_setXretTarget_S (v : Xlenbits) :
    Exec.Completes (setXretTarget .Supervisor v) := by
  unfold setXretTarget
  infer_instance

/-- The configuration register of an accepted number exists. -/
theorem even_of_any {csr : BitVec 12} (h : (pmpcfgIdx csr).any pmpcfgEven = true) :
    pmpcfgEven ((pmpcfgIdx csr).getD 0) = true := by
  cases hn : pmpcfgIdx csr with
  | none => rw [hn] at h; cases h
  | some n =>
      rw [hn] at h
      exact h

/-! ## Reading -/

/-- The numbers that a clause of `read_CSR` handles: what is defined is handled. -/
theorem completes_readCSR {s : State} {csr : BitVec 12} (h : isCSRDefined s csr = true) :
    Exec.Completes (readCSR csr) := by
  unfold readCSR
  repeat' first
    | infer_instance
    | exact completes_readCfg (even_of_any (by assumption))
    | refine Exec.completes_of_ite (fun hc => ?_) (fun hc => ?_)
  -- no clause applies: the number is not defined
  exfalso
  unfold isCSRDefined at h
  cases hn : pmpcfgIdx csr with
  | none => by_cases hx : xlen = 32 <;> simp_all
  | some n => simp_all

/-! ## Writing -/

/-- The number of a floating-point CSR. -/
def IsFpCsr (csr : BitVec 12) : Prop := csr = 0x001#12 ∨ csr = 0x002#12 ∨ csr = 0x003#12

/-- The number of a CSR that can only be read. -/
def IsReadOnlyCsr (csr : BitVec 12) : Prop := csr.extractLsb' 10 2 = 0b11#2

/-- The floating-point context can be marked as dirty in a build with one of F and Zfinx. -/
theorem completes_writeFcsr (h : sysEnableFdext ≠ sysEnableZfinx) (frm : BitVec 3)
    (fflags : BitVec 5) : Exec.Completes (writeFcsr frm fflags) := by
  have hdirty : Exec.Completes dirtyFdContextIfPresent := by
    unfold dirtyFdContextIfPresent dirtyFdContext assert
    rw [if_pos (by simpa using h)]
    refine @Exec.completes_bind _ _ _ _ _ _ _ (fun _ => ?_)
    refine Exec.completes_of_ite (fun hf => ?_) (fun _ => inferInstance)
    rw [if_pos hf]
    infer_instance
  unfold writeFcsr
  infer_instance

omit [Platform] in
/-- The performance counters in the user block can only be read. -/
theorem readOnly_of_hpmIdx {block : BitVec 7} {csr : BitVec 12} (h : (hpmIdx block csr).isSome)
    (hb : block.extractLsb' 5 2 = 0b11#2) : IsReadOnlyCsr csr := by
  unfold hpmIdx at h
  split at h
  · next hblock =>
      unfold IsReadOnlyCsr
      rw [← hb, ← hblock.1]
      apply BitVec.eq_of_getLsbD_eq
      intro i hi
      simp only [BitVec.getLsbD_extractLsb', hi, decide_true, Bool.true_and,
        show 5 + i < 7 by omega]
      congr 1
      omega
  · cases h

omit [Platform] in
theorem ne_of_readOnly {csr n : BitVec 12} (hrw : ¬ IsReadOnlyCsr csr)
    (hn : n.extractLsb' 10 2 = 0b11#2) : csr ≠ n := by
  rintro rfl
  exact hrw hn

/-- What is defined and not read-only is handled by a clause of `write_CSR`, which completes
unless it dirties a missing floating-point context or needs the current architecture. -/
theorem completes_writeCSR {s : State} {csr : BitVec 12} (h : isCSRDefined s csr = true)
    (hrw : ¬ IsReadOnlyCsr csr) (hfp : IsFpCsr csr → sysEnableFdext ≠ sysEnableZfinx)
    (hsatp : csr ≠ 0x180#12) (v : Xlenbits) : Exec.Completes (writeCSR csr v) := by
  unfold writeCSR
  repeat' first
    | infer_instance
    | refine Exec.completes_of_ite (fun hc => ?_) (fun hc => ?_)
  · next hc =>
      have := completes_writeCfg (even_of_any hc) v
      have := completes_readCfg (even_of_any hc)
      infer_instance
  · have := completes_writeFcsr (hfp (Or.inl (by assumption)))
    infer_instance
  · have := completes_writeFcsr (hfp (Or.inr (Or.inl (by assumption))))
    infer_instance
  · have := completes_writeFcsr (hfp (Or.inr (Or.inr (by assumption))))
    infer_instance
  · exact absurd (by assumption) hsatp
  -- no clause applies: the number is not defined, or read-only
  exfalso
  have hro (n : BitVec 12) (hn : n.extractLsb' 10 2 = 0b11#2) : csr ≠ n :=
    ne_of_readOnly hrw hn
  have hpm {block : BitVec 7} (hb : block.extractLsb' 5 2 = 0b11#2) :
      (hpmIdx block csr).isSome = false :=
    Bool.eq_false_iff.mpr (fun hsome => hrw (readOnly_of_hpmIdx hsome hb))
  unfold isCSRDefined at h
  simp only [hro 0xF11#12 rfl, hro 0xF12#12 rfl, hro 0xF13#12 rfl, hro 0xF14#12 rfl,
    hro 0xF15#12 rfl, hro 0xC20#12 rfl, hro 0xC21#12 rfl, hro 0xC22#12 rfl,
    hro 0xC00#12 rfl, hro 0xC01#12 rfl, hro 0xC02#12 rfl, hro 0xC80#12 rfl,
    hro 0xC81#12 rfl, hro 0xC82#12 rfl, @hpm 0b1100000#7 rfl, @hpm 0b1100100#7 rfl] at h
  clear hro hpm
  cases hn : pmpcfgIdx csr with
  | none => by_cases hx : xlen = 32 <;> simp_all
  | some n => simp_all

/-! ## What is let through is handled -/

/-- An error of a write to a CSR that a clause of `write_CSR` handles: the build has both or
none of F and Zfinx, or the current architecture of the state is invalid. -/
def WriteError (s : State) (csr : BitVec 12) (e : ModelError) : Prop :=
  (IsFpCsr csr ∧ sysEnableFdext = sysEnableZfinx ∧ e = .assertFailed fpAccessor)
    ∨ (csr = 0x180#12 ∧ curArchitecture s = .error e)

/-- The writes of the floating-point CSRs are the only ones with an assertion. -/
theorem error_of_writeFcsr {s : State} {frm : BitVec 3} {fflags : BitVec 5} {k : M Xlenbits}
    (hk : Exec.Completes k) {e : ModelError}
    (h : (do writeFcsr frm fflags; k).run s = .error e) :
    sysEnableFdext = sysEnableZfinx ∧ e = .assertFailed fpAccessor := by
  by_cases hfz : sysEnableFdext = sysEnableZfinx
  · refine ⟨hfz, ?_⟩
    unfold writeFcsr dirtyFdContextIfPresent assert at h
    rw [if_neg (by simp [hfz])] at h
    cases h
    rfl
  · have := completes_writeFcsr hfz frm fflags
    have hc : Exec.Completes (do writeFcsr frm fflags; k) := inferInstance
    exact absurd h (hc.run_ne_error s e)

/-- The errors of a write that is let through. -/
theorem writeCSR_error {s : State} {csr : BitVec 12} (h : isCSRDefined s csr = true)
    (hrw : ¬ IsReadOnlyCsr csr) {v : Xlenbits} {e : ModelError}
    (he : (writeCSR csr v).run s = .error e) : WriteError s csr e := by
  by_cases hsatp : csr = 0x180#12
  · right
    refine ⟨hsatp, ?_⟩
    subst hsatp
    cases ha : curArchitecture s with
    | ok a =>
        have hok : (writeCSR 0x180#12 v).run s
            = .ok (legalizeSatp a s.satp v, { s with satp := legalizeSatp a s.satp v }) := by
          have hrun : (Exec.checks curArchitecture).run s = .ok (a, s) :=
            Exec.run_checks_ok.mpr ⟨ha, rfl⟩
          exact Exec.run_bind_of_ok hrun
        rw [hok] at he
        cases he
    | error e' =>
        have herr : (writeCSR 0x180#12 v).run s = .error e' := by
          have hrun : (Exec.checks curArchitecture).run s = .error e' := by
            rw [Exec.run_checks, ha]
            rfl
          exact Exec.run_bind_of_error hrun
        rw [herr] at he
        cases he
        rfl
  · by_cases hfp : IsFpCsr csr
    · left
      refine ⟨hfp, ?_⟩
      rcases hfp with rfl | rfl | rfl
      · have hrun : (do
            writeFcsr (Fcsr.FRM.get s.fcsr) (v.extractLsb' 0 5)
            Exec.reads (fun s => (Fcsr.FFLAGS.get s.fcsr).setWidth xlen) : M Xlenbits).run s
              = .error e := he
        exact error_of_writeFcsr inferInstance hrun
      · have hrun : (do
            writeFcsr (v.extractLsb' 0 3) (Fcsr.FFLAGS.get s.fcsr)
            Exec.reads (fun s => (Fcsr.FRM.get s.fcsr).setWidth xlen) : M Xlenbits).run s
              = .error e := he
        exact error_of_writeFcsr inferInstance hrun
      · have hrun : (do
            writeFcsr (v.extractLsb' 5 3) (v.extractLsb' 0 5)
            Exec.reads (fun s => s.fcsr.setWidth xlen) : M Xlenbits).run s = .error e := he
        exact error_of_writeFcsr inferInstance hrun
    · exact absurd he
        ((completes_writeCSR h hrw (fun hf => absurd hf hfp) hsatp v).run_ne_error s e)

/-- The parts of an access that `check_CSR` lets through. -/
theorem defined_of_checkCSR {s : State} {csr : BitVec 12} {p : Privilege} {isWrite : Bool}
    (h : checkCSR s csr p isWrite = true) :
    isCSRDefined s csr = true ∧ (isWrite = true → ¬ IsReadOnlyCsr csr) := by
  unfold checkCSR checkCSRAccess at h
  simp only [Bool.and_eq_true] at h
  refine ⟨h.1.1.1.1, ?_⟩
  rintro rfl hro
  unfold IsReadOnlyCsr at hro
  have hacc := h.1.1.1.2.1
  rw [hro] at hacc
  cases hacc

/-- **CSR dispatch is complete.**  An access that `check_CSR` lets through is read by a clause
that completes, and, when it is a write, written by a clause other than the fallback for every
value. -/
theorem csr_dispatch_complete {s : State} {csr : BitVec 12} {p : Privilege} {isWrite : Bool}
    (h : checkCSR s csr p isWrite = true) :
    (∃ v s', (readCSR csr).run s = .ok (v, s'))
      ∧ (isWrite = true → ∀ v e, (writeCSR csr v).run s = .error e →
          e ≠ ModelError.internalError "Write to CSR that does not exist"
            ∧ WriteError s csr e) := by
  obtain ⟨hdef, hrw⟩ := defined_of_checkCSR h
  refine ⟨(completes_readCSR hdef).run_ok s, ?_⟩
  intro hw v e he
  have herr := writeCSR_error hdef (hrw hw) he
  refine ⟨?_, herr⟩
  rintro rfl
  rcases herr with ⟨-, -, hassert⟩ | ⟨-, harch⟩
  · cases hassert
  · unfold curArchitecture at harch
    dsimp only at harch
    generalize architecture _ = a at harch
    cases a <;> simp at harch

omit [Platform] in
/-- On RV64 with 16 PMP entries, M-mode may write `pmpcfg0`. -/
theorem checkCSR_pmpcfg0 :
    letI := rv64Pmp 16 (by decide)
    checkCSR machineZero 0x3A0#12 .Machine true = true := by
  decide

omit [Platform] in
/-- The write of `pmpcfg0` that M-mode may make is handled. -/
theorem csr_dispatch_complete_pmpcfg0 :
    letI := rv64Pmp 16 (by decide)
    ∃ s : State, checkCSR s 0x3A0#12 .Machine true = true
      ∧ ∀ v e, (writeCSR 0x3A0#12 v).run s = .error e →
          e ≠ ModelError.internalError "Write to CSR that does not exist" := by
  let := rv64Pmp 16 (by decide)
  exact ⟨machineZero, checkCSR_pmpcfg0,
    fun v e he => ((csr_dispatch_complete checkCSR_pmpcfg0).2 rfl v e he).1⟩

/-! ## The CSRs of the vector unit -/

/-- The number of a CSR of the vector unit. -/
def IsVectorCsr (csr : BitVec 12) : Prop :=
  csr ∈ [0x008#12, 0x009#12, 0x00A#12, 0x00F#12, 0xC20#12, 0xC21#12, 0xC22#12]

instance (csr : BitVec 12) : Decidable (IsVectorCsr csr) := by
  unfold IsVectorCsr
  infer_instance

instance (csr : BitVec 12) : Decidable (IsReadOnlyCsr csr) := by
  unfold IsReadOnlyCsr
  infer_instance

/-- A CSR of the vector unit is let through unless it is a write to a read-only one. -/
theorem checkCSR_vector {csr : BitVec 12} (hcsr : IsVectorCsr csr) (s : State) (p : Privilege)
    (isWrite : Bool) :
    checkCSR s csr p isWrite = true ↔ ¬ (isWrite = true ∧ IsReadOnlyCsr csr) := by
  unfold IsVectorCsr at hcsr
  simp only [List.mem_cons, List.not_mem_nil, or_false] at hcsr
  have hdef : isCSRDefined s csr = true := by
    rcases hcsr with rfl | rfl | rfl | rfl | rfl | rfl | rfl <;>
      simp [isCSRDefined, pmpcfgIdx, pmpaddrIdx]
  have hcount : checkCounteren s csr p = true := by
    rcases hcsr with rfl | rfl | rfl | rfl | rfl | rfl | rfl <;> simp [checkCounteren]
  have htvm : checkTVMSATP s csr p = true := by
    rcases hcsr with rfl | rfl | rfl | rfl | rfl | rfl | rfl <;> simp [checkTVMSATP]
  have hseed : checkSeedCSR csr p isWrite = true := by
    rcases hcsr with rfl | rfl | rfl | rfl | rfl | rfl | rfl <;> simp [checkSeedCSR]
  have hpriv : csr.extractLsb' 8 2 = 0#2 := by
    rcases hcsr with rfl | rfl | rfl | rfl | rfl | rfl | rfl <;> rfl
  have hle : 0#2 ≤ privLevelToBits p := by cases p <;> decide
  unfold checkCSR checkCSRAccess IsReadOnlyCsr
  rw [hdef, hcount, htvm, hseed, hpriv]
  cases isWrite <;> simp [hle]

/-- An access to a CSR of the vector unit is let through only when the unit is on. -/
def VectorCsrProtected (s : State) (csr : BitVec 12) (p : Privilege) (isWrite : Bool) : Prop :=
  checkCSR s csr p isWrite = true → extensionEnabled s .V = true

/-- An instruction that reads or writes a CSR of the vector unit retires only when the unit is
on. -/
def VectorCsrInstProtected (s : State) (i : ZicsrInst) : Prop :=
  (∃ s', i.execute.run s = .ok (.RETIRE_SUCCESS, s')) → extensionEnabled s .V = true

/-- A CSR instruction retires exactly when its access is let through and handled. -/
theorem zicsr_retires_iff {s : State} {i : ZicsrInst} (hcsr : IsVectorCsr i.csr) :
    (∃ s', i.execute.run s = .ok (.RETIRE_SUCCESS, s'))
      ↔ checkCSR s i.csr s.curPrivilege (i.isWrite s) = true := by
  unfold ZicsrInst.execute
  rw [Exec.run_bind_of_ok (Exec.run_reads _ _), Exec.run_bind_of_ok (Exec.run_reads _ _),
    Exec.run_bind_of_ok (Exec.run_reads _ _)]
  constructor
  · rintro ⟨s', hrun⟩
    by_contra hcheck
    rw [if_neg hcheck] at hrun
    obtain ⟨u, s₁, -, hend⟩ := Exec.run_bind_ok.mp hrun
    cases hend
  · intro hcheck
    obtain ⟨hdef, hrw⟩ := defined_of_checkCSR hcheck
    have hread := completes_readCSR hdef
    rw [if_pos hcheck]
    have hne : IsVectorCsr i.csr → ¬ IsFpCsr i.csr ∧ i.csr ≠ 0x180#12 := by
      generalize i.csr = csr
      unfold IsVectorCsr IsFpCsr
      simp only [List.mem_cons, List.not_mem_nil, or_false]
      rintro (rfl | rfl | rfl | rfl | rfl | rfl | rfl) <;> decide
    obtain ⟨hfp, hsatp⟩ := hne hcsr
    obtain ⟨v, s₁, hv⟩ := hread.run_ok s
    rw [Exec.run_bind_of_ok hv]
    by_cases hw : i.isWrite s = true
    · have hwrite := completes_writeCSR hdef (hrw hw) (fun hf => absurd hf hfp) hsatp
      obtain ⟨u, s₂, hu⟩ := (hwrite (i.newVal v (i.rs1Val s))).run_ok s₁
      rw [if_pos hw, Exec.run_bind_of_ok hu]
      exact ⟨_, rfl⟩
    · rw [if_neg hw]
      exact ⟨_, rfl⟩

/-- **The CSRs of the vector unit are not protected.**  Their access is limited to an enabled
vector unit exactly when the unit is enabled, or the access is refused as a write to a read-only
register. -/
theorem vectorCsr_protected_iff {csr : BitVec 12} (hcsr : IsVectorCsr csr) (s : State) :
    (∀ p isWrite, VectorCsrProtected s csr p isWrite
        ↔ extensionEnabled s .V = true ∨ (isWrite = true ∧ IsReadOnlyCsr csr))
      ∧ ∀ i : ZicsrInst, i.csr = csr → (VectorCsrInstProtected s i
          ↔ extensionEnabled s .V = true ∨ (i.isWrite s = true ∧ IsReadOnlyCsr csr)) := by
  constructor
  · intro p isWrite
    unfold VectorCsrProtected
    rw [checkCSR_vector hcsr]
    tauto
  · rintro i rfl
    unfold VectorCsrInstProtected
    rw [zicsr_retires_iff hcsr, checkCSR_vector hcsr]
    tauto

omit [Platform] in
/-- Writes to `vl` are refused. -/
theorem vectorCsr_protected_iff_vl :
    letI := rv64Pmp 16 (by decide)
    ∃ s : State, IsVectorCsr 0xC20#12 ∧ VectorCsrProtected s 0xC20#12 .User true := by
  let := rv64Pmp 16 (by decide)
  have hvl : IsVectorCsr 0xC20#12 := by decide
  exact ⟨machineZero, hvl,
    ((vectorCsr_protected_iff hvl machineZero).1 .User true).mpr (Or.inr ⟨rfl, by decide⟩)⟩

omit [Platform] in
/-- With the vector unit off, `vstart` can still be written. -/
theorem vstart_not_protected :
    ¬ ∀ [Platform] (s : State) (csr : BitVec 12) (p : Privilege) (isWrite : Bool),
      IsVectorCsr csr → VectorCsrProtected s csr p isWrite := by
  intro h
  let := rv64Pmp 16 (by decide)
  have hcheck : checkCSR machineZero 0x008#12 .User true = true :=
    (checkCSR_vector (by decide) machineZero .User true).mpr (by decide)
  have hV := h machineZero 0x008#12 .User true (by decide) hcheck
  exact absurd hV (by decide)

end SailRiscv
