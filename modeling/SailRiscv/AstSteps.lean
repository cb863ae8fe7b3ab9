/-
# Steps and the state outside the registers

The C emulator keeps the reservation of LR and SC and the calls of the cache simulator outside
the registers of the model.  `OuterRel R` says that `R` constrains these only; then every
instruction does `R`-steps, if `R` allows for calls of the cache simulator where the
instruction makes them, and for changes of the reservation where it does.
-/
import SailRiscv.StepRel

namespace SailRiscv

open Bits Platform

variable [Platform]

/-! ## Relations on the state outside the registers -/

/-- The state outside the registers is the same. -/
structure SameOuter (s s' : State) : Prop where
  reservation : s'.reservation = s.reservation
  reservationValid : s'.reservationValid = s.reservationValid
  cacheTrace : s'.cacheTrace = s.cacheTrace

theorem SameOuter.refl (s : State) : SameOuter s s := ⟨rfl, rfl, rfl⟩

/-- The relation constrains the state outside the registers only. -/
class OuterRel (R : State → State → Prop) : Prop extends Std.Refl R, IsTrans State R where
  outer : ∀ {s s'}, SameOuter s s' → R s s'

section Outer

variable {R : State → State → Prop} [OuterRel R]

instance OuterRel.intRel : IntRel R where
  devices _ _ := OuterRel.outer ⟨rfl, rfl, rfl⟩
  store _ _ _ _ _ := OuterRel.outer ⟨rfl, rfl, rfl⟩
  tlb _ _ _ := OuterRel.outer ⟨rfl, rfl, rfl⟩
  x _ _ := OuterRel.outer ⟨rfl, rfl, rfl⟩
  clock _ _ := OuterRel.outer ⟨rfl, rfl, rfl⟩
  jump _ _ _ := OuterRel.outer ⟨rfl, rfl, rfl⟩

/-- A change of registers. -/
theorem keeps_outer {f : State → State} (h : ∀ s, SameOuter s (f s)) :
    Exec.Keeps R (Exec.update f : M Unit) :=
  Exec.keeps_update (fun s => OuterRel.outer (h s))

/-- A write of a register with the value that is read back. -/
theorem keeps_outer_writeReg {write : State → State} {read : State → Xlenbits}
    (h : ∀ s, SameOuter s (write s)) : Exec.Keeps R (writeReg write read) :=
  keeps_writeReg (fun s => OuterRel.outer (h s))

/-! ## Traps -/

/-- Traps change registers. -/
theorem TrapEntry.sameOuter {intr : Bool} {c : BitVec 8} {info : Option Xlenbits} {s s' : State}
    {p : Privilege} (h : TrapEntry intr c info s p s') : SameOuter s s' := by
  rcases h with _ | _ <;> exact ⟨rfl, rfl, rfl⟩

theorem SyncTrap.sameOuter {s s' : State} (h : SyncTrap s s') : SameOuter s s' := by
  obtain ⟨e, h⟩ := h
  exact (handleSync_cases h).sameOuter

instance OuterRel.stepRel : StepRel R where
  toCoreRel := OuterRel.intRel.toCoreRel
  trap h := OuterRel.outer h.sameOuter
  vec _ _ := OuterRel.outer ⟨rfl, rfl, rfl⟩
  dirtyV _ := OuterRel.outer ⟨rfl, rfl, rfl⟩
  fp _ _ _ := OuterRel.outer ⟨rfl, rfl, rfl⟩
  dirtyFd _ _ := OuterRel.outer ⟨rfl, rfl, rfl⟩
  after _ _ := OuterRel.outer ⟨rfl, rfl, rfl⟩
  bits _ _ := OuterRel.outer ⟨rfl, rfl, rfl⟩

instance keeps_outer_setNextPc (pc : Xlenbits) : Exec.Keeps R (setNextPc pc) :=
  keeps_outer (fun _ => ⟨rfl, rfl, rfl⟩)

instance OuterRel.retClosed : RetClosed R where
  mret _ _ _ := OuterRel.outer ⟨rfl, rfl, rfl⟩
  sret _ _ := OuterRel.outer ⟨rfl, rfl, rfl⟩

/-! ## CSRs -/

instance keeps_outer_writeFcsr (frm : BitVec 3) (fflags : BitVec 5) :
    Exec.Keeps R (writeFcsr frm fflags) := by
  have := keeps_outer (R := R) (f := fun s => { s with
    fcsr := Fcsr.FFLAGS.set (Fcsr.FRM.set s.fcsr frm) fflags }) (fun _ => ⟨rfl, rfl, rfl⟩)
  have : Exec.Keeps R dirtyFdContextIfPresent := keeps_of_stepView inferInstance
  unfold writeFcsr
  infer_instance

instance keeps_outer_extWriteVcsr (vxrm : BitVec 2) (vxsat : BitVec 1) :
    Exec.Keeps R (extWriteVcsr vxrm vxsat) := by
  have := keeps_outer (R := R) (f := fun s => { s with
    vcsr := Vcsr.vxsat.set (Vcsr.vxrm.set s.vcsr vxrm) vxsat }) (fun _ => ⟨rfl, rfl, rfl⟩)
  have : Exec.Keeps R dirtyVContext := keeps_of_stepView inferInstance
  unfold extWriteVcsr dirtyVContextIfPresent
  infer_instance

instance keeps_outer_readCSR (csr : BitVec 12) : Exec.Keeps R (readCSR csr) :=
  keeps_readCSR_of (R := R) (fun _ => OuterRel.outer ⟨rfl, rfl, rfl⟩) csr

instance keeps_outer_writeCSR (csr : BitVec 12) (value : Xlenbits) :
    Exec.Keeps R (writeCSR csr value) := by
  have hsatp : Exec.Keeps R (writeSatp value) := by
    have (arch : Architecture) := keeps_outer (R := R)
      (f := fun s => { s with satp := legalizeSatp arch s.satp value }) (fun _ => ⟨rfl, rfl, rfl⟩)
    unfold writeSatp
    infer_instance
  have hxret (p : Privilege) : Exec.Keeps R (setXretTarget p value) := by
    have (target : Xlenbits) := keeps_outer (R := R)
      (f := fun s => { s with mepc := target }) (fun _ => ⟨rfl, rfl, rfl⟩)
    have (target : Xlenbits) := keeps_outer (R := R)
      (f := fun s => { s with sepc := target }) (fun _ => ⟨rfl, rfl, rfl⟩)
    unfold setXretTarget
    cases p <;> infer_instance
  have hcfg (n : Fin 16) : Exec.Keeps R (pmpWriteCfgReg n value) := by
    have (k : ℕ) := keeps_outer (R := R)
      (f := fun s => { s with pmpcfg := writeCfgs s.pmpcfg (n.val * 4) value k })
      (fun _ => ⟨rfl, rfl, rfl⟩)
    unfold pmpWriteCfgReg
    infer_instance
  have haddr (n : Fin 64) : Exec.Keeps R (pmpWriteAddrReg n value) :=
    keeps_outer (fun _ => ⟨rfl, rfl, rfl⟩)
  have hcounter {n : ℕ} (i : Fin 32) (lo : ℕ) (v : BitVec n) (s : State) :
      SameOuter s (writeMhpmcounterAt i lo v s) := by
    unfold writeMhpmcounterAt
    split <;> exact ⟨rfl, rfl, rfl⟩
  have hevent (i : Fin 32) (s : State) : SameOuter s (writeMhpmevent i value s) := by
    unfold writeMhpmevent
    split <;> exact ⟨rfl, rfl, rfl⟩
  unfold writeCSR
  repeat' first
    | infer_instance
    | exact keeps_outer_writeReg (fun _ => ⟨rfl, rfl, rfl⟩)
    | exact keeps_outer_writeReg (hcounter _ _ _)
    | exact keeps_outer_writeReg (hevent _)
    | refine @Exec.keeps_ite _ _ _ _ _ _ _ _ ?_ ?_

/-! ## Instructions -/

instance keeps_outer_zicsr (i : ZicsrInst) : Exec.Keeps R i.execute :=
  keeps_zicsr inferInstance (fun _ => inferInstance)

/-- **Instructions do steps of the relation.** -/
theorem Ast.keeps [SoftFloat] {i : Ast} (ht : i.Traced → TraceClosed R)
    (hr : i.Reserves → ReservationClosed R) (heven : i.EvenOffset) : Exec.Keeps R i.execute :=
  Ast.keeps_of ht hr heven (fun _ => inferInstance) (fun _ => inferInstance)
    (fun _ _ => inferInstance)

/-! ## Turns of the loop -/

instance keeps_outer_initModel : Exec.Keeps R initModel := by
  unfold initModel initPlatform initSys initTLB
  repeat' first
    | infer_instance
    | exact keeps_outer (fun _ => ⟨rfl, rfl, rfl⟩)
    | refine @Exec.keeps_bind _ _ _ _ _ _ _ _ ?_ (fun _ => ?_)
    | refine @Exec.keeps_ite _ _ _ _ _ _ _ _ ?_ ?_

/-- A tick of the clock. -/
theorem Turns.rel_tick [SoftFloat] {s s' : State} (h : Turns .tick s s') : R s s' := by
  have : Exec.Keeps R tickPlatform :=
    keeps_devices (fun _ => rfl)
  have hkeeps : Exec.Keeps R (do tickClock; tickPlatform : M Unit) := inferInstance
  exact hkeeps.rel h

/-- What precedes the execution of an instruction. -/
theorem Executes.rel [SoftFloat] [TraceClosed R] {s s₁ : State} {i : Ast} (h : Executes s i s₁) :
    R s s₁ := by
  have hbegin : R s s.begin := OuterRel.outer ⟨rfl, rfl, rfl⟩
  exact IsTrans.trans _ _ _ hbegin h.rel_of

/-- A step does a step of the relation, if the instruction that it executes does. -/
theorem Outcome.rel [SoftFloat] [TraceClosed R] {s s' : State} {r : Retired}
    (h : Outcome s r s')
    (hexec : ∀ {i s₁}, Executes s i s₁ → i.execute.run s₁ = .ok (r, s') → R s₁ s') : R s s' := by
  have hbegin : R s s.begin := OuterRel.outer ⟨rfl, rfl, rfl⟩
  exact IsTrans.trans _ _ _ hbegin (h.rel_of hexec)

end Outer

end SailRiscv
