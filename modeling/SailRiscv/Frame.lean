/-
# The privileged registers

`State.sys` collects the registers that only traps, returns from traps and CSR writes
change; the rest of the model leaves them alone, except that it may mark the contexts of
the floating-point and vector units as dirty in `mstatus`.  `Frame s s'` says that they are
the same in both states.  What the sources do between two changes of these registers is
then summed up by instances of `Exec.Keeps Frame`.
-/
import SailRiscv.BusSteps
import SailRiscv.Csr
import SailRiscv.SysControl

namespace SailRiscv

open Bits Platform

variable [Platform]

/-! ## The registers -/

/-- `mstatus` without the fields that record dirty contexts. -/
def sysMstatus (m : Xlenbits) : Xlenbits :=
  Mstatus.SD.set (Mstatus.VS.set (Mstatus.FS.set m 0#_) 0#_) 0#_

/-- The registers that ordinary instructions leave alone. -/
structure Sys where
  pc : Xlenbits
  instbits : Xlenbits
  curPrivilege : Privilege
  misa : Xlenbits
  mstatus : Xlenbits
  mstatush : BitVec 32
  mie : Xlenbits
  medeleg : Xlenbits
  mideleg : Xlenbits
  mtvec : Xlenbits
  mcause : Xlenbits
  mepc : Xlenbits
  mtval : Xlenbits
  mscratch : Xlenbits
  stvec : Xlenbits
  scause : Xlenbits
  sepc : Xlenbits
  stval : Xlenbits
  sscratch : Xlenbits
  satp : Xlenbits
  menvcfg : BitVec 64
  senvcfg : Xlenbits
  mcounteren : BitVec 32
  scounteren : BitVec 32
  mcountinhibit : BitVec 32
  pmpcfg : Fin 64 → BitVec 8
  pmpaddr : Fin 64 → Xlenbits

/-- The privileged registers of a state. -/
def State.sys (s : State) : Sys where
  pc := s.pc
  instbits := s.instbits
  curPrivilege := s.curPrivilege
  misa := s.misa
  mstatus := sysMstatus s.mstatus
  mstatush := s.mstatush
  mie := s.mie
  medeleg := s.medeleg
  mideleg := s.mideleg
  mtvec := s.mtvec
  mcause := s.mcause
  mepc := s.mepc
  mtval := s.mtval
  mscratch := s.mscratch
  stvec := s.stvec
  scause := s.scause
  sepc := s.sepc
  stval := s.stval
  sscratch := s.sscratch
  satp := s.satp
  menvcfg := s.menvcfg
  senvcfg := s.senvcfg
  mcounteren := s.mcounteren
  scounteren := s.scounteren
  mcountinhibit := s.mcountinhibit
  pmpcfg := s.pmpcfg
  pmpaddr := s.pmpaddr

/-- The privileged registers are the same in both states. -/
def Frame (s s' : State) : Prop := s'.sys = s.sys

instance : Std.Refl Frame := ⟨fun _ => rfl⟩

instance : IsTrans State Frame := ⟨fun _ _ _ h₁ h₂ => Eq.trans h₂ h₁⟩

/-! ## Fields of `mstatus` -/

/-- Two register values that agree outside the context fields. -/
theorem sysMstatus_congr {m m' : Xlenbits}
    (h : ∀ i, i < xlen - 1 → ¬ (9 ≤ i ∧ i < 11) → ¬ (13 ≤ i ∧ i < 15) →
      m'.getLsbD i = m.getLsbD i) : sysMstatus m' = sysMstatus m := by
  have hx := xlen_ge
  unfold sysMstatus
  apply BitVec.eq_of_getLsbD_eq
  intro i hi
  simp only [Field.getLsbD_set]
  split
  · rfl
  · split
    · rfl
    · split
      · rfl
      · exact h i (by omega) (by omega) (by omega)

/-- Marking the floating-point context as dirty. -/
theorem sysMstatus_dirtyFd (m : Xlenbits) :
    sysMstatus (Mstatus.SD.set (Mstatus.FS.set m (extStatusToBits .Dirty)) 1#1)
      = sysMstatus m := by
  apply sysMstatus_congr
  intro i h1 h2 h3
  simp only [Field.getLsbD_set]
  rw [if_neg (by omega), if_neg (by omega)]

/-- Marking the vector context as dirty. -/
theorem sysMstatus_dirtyV (m : Xlenbits) :
    sysMstatus (Mstatus.SD.set (Mstatus.VS.set m (extStatusToBits .Dirty)) 1#1)
      = sysMstatus m := by
  apply sysMstatus_congr
  intro i h1 h2 h3
  simp only [Field.getLsbD_set]
  rw [if_neg (by omega), if_neg (by omega)]

/-! ## Primitive operations -/

instance (r : BitVec 5) : Exec.Keeps Frame (rX r) := by
  unfold rX
  infer_instance

instance (r : BitVec 5) (v : Xlenbits) : Exec.Keeps Frame (wX r v) := by
  apply Exec.keeps_update
  intro s
  unfold State.setX
  split <;> rfl

instance : Exec.Keeps Frame getArchPc := by
  unfold getArchPc
  infer_instance

instance : Exec.Keeps Frame getNextPc := by
  unfold getNextPc
  infer_instance

instance (pc : Xlenbits) : Exec.Keeps Frame (setNextPc pc) :=
  Exec.keeps_update (fun _ => rfl)

instance : Exec.Keeps Frame dirtyFdContext := by
  have := Exec.keeps_update (R := Frame) (ε := ModelError) (f := fun s => { s with
    mstatus := Mstatus.SD.set (Mstatus.FS.set s.mstatus (extStatusToBits .Dirty)) 1#1 })
    (fun s => by
      unfold Frame State.sys
      rw [sysMstatus_dirtyFd])
  unfold dirtyFdContext
  infer_instance

instance : Exec.Keeps Frame dirtyFdContextIfPresent := by
  unfold dirtyFdContextIfPresent
  infer_instance

instance : Exec.Keeps Frame dirtyVContext := by
  have := Exec.keeps_update (R := Frame) (ε := ModelError) (f := fun s => { s with
    mstatus := Mstatus.SD.set (Mstatus.VS.set s.mstatus (extStatusToBits .Dirty)) 1#1 })
    (fun s => by
      unfold Frame State.sys
      rw [sysMstatus_dirtyV])
  unfold dirtyVContext
  infer_instance

instance : Exec.Keeps Frame dirtyVContextIfPresent := by
  unfold dirtyVContextIfPresent
  infer_instance

instance (frm : BitVec 3) (fflags : BitVec 5) : Exec.Keeps Frame (writeFcsr frm fflags) := by
  have := Exec.keeps_update (R := Frame) (ε := ModelError) (f := fun s => { s with
    fcsr := Fcsr.FFLAGS.set (Fcsr.FRM.set s.fcsr frm) fflags }) (fun _ => rfl)
  unfold writeFcsr
  infer_instance

instance (vxrm : BitVec 2) (vxsat : BitVec 1) : Exec.Keeps Frame (extWriteVcsr vxrm vxsat) := by
  have := Exec.keeps_update (R := Frame) (ε := ModelError) (f := fun s => { s with
    vcsr := Vcsr.vxsat.set (Vcsr.vxrm.set s.vcsr vxrm) vxsat }) (fun _ => rfl)
  unfold extWriteVcsr
  infer_instance

instance : Exec.Keeps Frame readSeedCsr := by
  have := Exec.keeps_update (R := Frame) (ε := ModelError) (f := fun s => { s with
    entropy := fun n => s.entropy (n + 1) }) (fun _ => rfl)
  unfold readSeedCsr
  infer_instance

/-- A read of a CSR leaves the privileged registers alone. -/
instance keeps_frame_readCSR (csr : BitVec 12) : Exec.Keeps Frame (readCSR csr) := by
  unfold readCSR
  repeat' first
    | infer_instance
    | refine @Exec.keeps_ite _ _ _ _ _ _ _ _ ?_ ?_

end SailRiscv
