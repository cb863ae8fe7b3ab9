/-
# The checks of accesses in reachable states

What the checks of an access to memory rely on holds in every reachable state (`ChecksLegal`):
no PMP entry is for writes only, `satp` and `mstatus` name a mode of translation, and the
look-aside buffer holds valid PTEs with A set.
-/
import SailRiscv.DataChecks
import SailRiscv.Sfence
import SailRiscv.Sstatus

namespace SailRiscv

open Bits Platform

variable [Platform]

/-! ## The invariant -/

/-- What the checks of an access rely on, apart from the privileges in `mstatus`. -/
structure ChecksLegal (s : State) : Prop where
  sxl : xlen = 64 → Mstatus.SXL.get s.mstatus = archToBits .RV64
  mode : xlen = 64 → (satp64ModeOfBits .RV64 (Satp64.Mode.get s.satp)).isSome = true
  pmp : PmpLegal s
  readable : ∀ i, Pmpcfg.W.get (s.pmpcfg i) = 1#1 → Pmpcfg.R.get (s.pmpcfg i) = 1#1
  tlb : TlbLegal s.tlb

/-- A step between such states. -/
def ChecksStep (s s' : State) : Prop := ChecksLegal s → ChecksLegal s'

instance : Std.Refl ChecksStep := ⟨fun _ h => h⟩

instance : IsTrans State ChecksStep := ⟨fun _ _ _ h h' hs => h' (h hs)⟩

/-- A step that leaves the registers alone. -/
theorem checksStep_of_eq {s s' : State}
    (hsxl : Mstatus.SXL.get s'.mstatus = Mstatus.SXL.get s.mstatus) (hsatp : s'.satp = s.satp)
    (hpmp : SamePmp s s') (htlb : TlbLegal s.tlb → TlbLegal s'.tlb) : ChecksStep s s' := by
  intro h
  constructor
  · rw [hsxl]
    exact h.sxl
  · rw [hsatp]
    exact h.mode
  · exact h.pmp.of_samePmp hpmp
  · rw [hpmp.1]
    exact h.readable
  · exact htlb h.tlb

/-! ## `SXL` -/

/-- A field for traps and contexts. -/
theorem sxl_set {m : Xlenbits} {f : Field} (hf : Mstatus.SXL.Apart f) (x : BitVec f.width) :
    Mstatus.SXL.get (f.set m x) = Mstatus.SXL.get m :=
  Field.get_set_of_apart hf m x

/-- The summary of the contexts. -/
theorem sxl_set_sd {m : Xlenbits} (x : BitVec 1) :
    Mstatus.SXL.get (Mstatus.SD.set m x) = Mstatus.SXL.get m := by
  refine sxl_set (f := Mstatus.SD) ?_ x
  rcases Platform.xlen_eq with h | h
  · exact Or.inr (by show xlen - 1 + 1 ≤ 34; omega)
  · exact Or.inl (by show 34 + 2 ≤ xlen - 1; omega)

theorem sxl_fsDirtied (m : Xlenbits) : Mstatus.SXL.get (fsDirtied m) = Mstatus.SXL.get m := by
  unfold fsDirtied
  rw [sxl_set_sd, sxl_set (by decide)]

theorem sxl_vsDirtied (m : Xlenbits) : Mstatus.SXL.get (vsDirtied m) = Mstatus.SXL.get m := by
  unfold vsDirtied
  rw [sxl_set_sd, sxl_set (by decide)]

theorem sxl_mstatusTrapM (m : Xlenbits) (p : Privilege) :
    Mstatus.SXL.get (mstatusTrapM m p) = Mstatus.SXL.get m := by
  unfold mstatusTrapM
  rw [sxl_set (by decide), sxl_set (by decide), sxl_set (by decide)]

theorem sxl_mstatusTrapS (m : Xlenbits) (b : BitVec 1) :
    Mstatus.SXL.get (mstatusTrapS m b) = Mstatus.SXL.get m := by
  unfold mstatusTrapS
  rw [sxl_set (by decide), sxl_set (by decide), sxl_set (by decide)]

theorem sxl_mstatusMret (m : Xlenbits) (p lowest : Privilege) :
    Mstatus.SXL.get (mstatusMret m p lowest) = Mstatus.SXL.get m := by
  unfold mstatusMret
  dsimp only
  split
  · rw [sxl_set (by decide), sxl_set (by decide), sxl_set (by decide), sxl_set (by decide)]
  · rw [sxl_set (by decide), sxl_set (by decide), sxl_set (by decide)]

theorem sxl_mstatusSret (m : Xlenbits) (p : Privilege) :
    Mstatus.SXL.get (mstatusSret m p) = Mstatus.SXL.get m := by
  unfold mstatusSret
  dsimp only
  split
  · rw [sxl_set (by decide), sxl_set (by decide), sxl_set (by decide), sxl_set (by decide)]
  · rw [sxl_set (by decide), sxl_set (by decide), sxl_set (by decide)]

/-- `SXL` is not writable. -/
theorem sxl_legalizeMstatus (hx : xlen = 64) (s : State) (o v : Xlenbits) :
    Mstatus.SXL.get (legalizeMstatus s o v) = Mstatus.SXL.get o := by
  apply BitVec.eq_of_getLsbD_eq
  intro i hi
  simp only at hi
  rw [Field.getLsbD_get, Field.getLsbD_get, getLsbD_legalizeMstatus s o v (by simp only; omega),
    if_pos (by simp only; omega)]

theorem sxl_mstatusWritten (hx : xlen = 64) (s : State) (csr : BitVec 12) (v : Xlenbits) :
    Mstatus.SXL.get (mstatusWritten s csr v) = Mstatus.SXL.get s.mstatus := by
  unfold mstatusWritten
  split_ifs
  · exact sxl_legalizeMstatus hx s _ v
  · exact sxl_legalizeMstatus hx s _ _
  · exact sxl_fsDirtied _
  · rfl
  · exact sxl_vsDirtied _
  · rfl
  · rfl

/-! ## Instructions other than CSR writes -/

theorem TrapEntry.checksStep {intr : Bool} {c : BitVec 8} {info : Option Xlenbits} {s s' : State}
    {p : Privilege} (h : TrapEntry intr c info s p s') : ChecksStep s s' := by
  rcases h with _ | _
  · exact checksStep_of_eq (sxl_mstatusTrapM _ _) rfl ⟨rfl, rfl⟩ id
  · exact checksStep_of_eq (sxl_mstatusTrapS _ _) rfl ⟨rfl, rfl⟩ id

instance : StepRel ChecksStep where
  devices _ _ := checksStep_of_eq rfl rfl ⟨rfl, rfl⟩ id
  store _ _ _ _ _ := checksStep_of_eq rfl rfl ⟨rfl, rfl⟩ id
  tlb _ _ ht := checksStep_of_eq rfl rfl ⟨rfl, rfl⟩ ht
  x _ _ := checksStep_of_eq rfl rfl ⟨rfl, rfl⟩ id
  jump _ _ _ := checksStep_of_eq rfl rfl ⟨rfl, rfl⟩ id
  trap h := h.checksStep
  vec _ _ := checksStep_of_eq rfl rfl ⟨rfl, rfl⟩ id
  dirtyV _ := checksStep_of_eq (sxl_vsDirtied _) rfl ⟨rfl, rfl⟩ id
  fp _ _ _ := checksStep_of_eq rfl rfl ⟨rfl, rfl⟩ id
  dirtyFd _ _ := checksStep_of_eq (sxl_fsDirtied _) rfl ⟨rfl, rfl⟩ id
  after _ _ := checksStep_of_eq rfl rfl ⟨rfl, rfl⟩ id
  bits _ _ := checksStep_of_eq rfl rfl ⟨rfl, rfl⟩ id

instance : TraceClosed ChecksStep := ⟨fun _ _ => checksStep_of_eq rfl rfl ⟨rfl, rfl⟩ id⟩

instance : ReservationClosed ChecksStep :=
  ⟨fun _ _ _ => checksStep_of_eq rfl rfl ⟨rfl, rfl⟩ id⟩

instance : ClockClosed ChecksStep := ⟨fun _ _ => checksStep_of_eq rfl rfl ⟨rfl, rfl⟩ id⟩

instance : RetClosed ChecksStep where
  mret _ _ _ := checksStep_of_eq (sxl_mstatusMret _ _ _) rfl ⟨rfl, rfl⟩ id
  sret _ _ := checksStep_of_eq (sxl_mstatusSret _ _) rfl ⟨rfl, rfl⟩ id

/-! ## CSR writes -/

/-- CSR writes leave the TLB alone. -/
theorem keeps_sameTlb_writeCSR (csr : BitVec 12) (value : Xlenbits) :
    Exec.Keeps SameTlb (writeCSR csr value) := by
  have hupdate {f : State → State} (h : ∀ s, SameTlb s (f s)) :
      Exec.Keeps SameTlb (Exec.update f : M Unit) := Exec.keeps_update h
  have hsatp : Exec.Keeps SameTlb (writeSatp value) := by
    have (arch : Architecture) := hupdate
      (f := fun s => { s with satp := legalizeSatp arch s.satp value }) (fun _ => rfl)
    unfold writeSatp
    infer_instance
  have hxret (p : Privilege) : Exec.Keeps SameTlb (setXretTarget p value) := by
    have (target : Xlenbits) := hupdate (f := fun s => { s with mepc := target }) (fun _ => rfl)
    have (target : Xlenbits) := hupdate (f := fun s => { s with sepc := target }) (fun _ => rfl)
    unfold setXretTarget
    cases p <;> infer_instance
  have hcfg (n : Fin 16) : Exec.Keeps SameTlb (pmpWriteCfgReg n value) := by
    have (k : ℕ) := hupdate
      (f := fun s => { s with pmpcfg := writeCfgs s.pmpcfg (n.val * 4) value k }) (fun _ => rfl)
    unfold pmpWriteCfgReg
    infer_instance
  have haddr (n : Fin 64) : Exec.Keeps SameTlb (pmpWriteAddrReg n value) := hupdate (fun _ => rfl)
  have hcounter {n : ℕ} (i : Fin 32) (lo : ℕ) (v : BitVec n) (s : State) :
      SameTlb s (writeMhpmcounterAt i lo v s) := by
    unfold writeMhpmcounterAt
    split <;> rfl
  have hevent (i : Fin 32) (s : State) : SameTlb s (writeMhpmevent i value s) := by
    unfold writeMhpmevent
    split <;> rfl
  have hfcsr (frm : BitVec 3) (fflags : BitVec 5) : Exec.Keeps SameTlb (writeFcsr frm fflags) := by
    have := hupdate (f := fun s => { s with
      fcsr := Fcsr.FFLAGS.set (Fcsr.FRM.set s.fcsr frm) fflags }) (fun _ => rfl)
    have := hupdate (f := fun s => { s with mstatus := fsDirtied s.mstatus }) (fun _ => rfl)
    unfold writeFcsr dirtyFdContextIfPresent dirtyFdContext
    unfold fsDirtied at this
    infer_instance
  have hvcsr (vxrm : BitVec 2) (vxsat : BitVec 1) :
      Exec.Keeps SameTlb (extWriteVcsr vxrm vxsat) := by
    have := hupdate (f := fun s => { s with
      vcsr := Vcsr.vxsat.set (Vcsr.vxrm.set s.vcsr vxrm) vxsat }) (fun _ => rfl)
    have := hupdate (f := fun s => { s with mstatus := vsDirtied s.mstatus }) (fun _ => rfl)
    unfold extWriteVcsr dirtyVContextIfPresent dirtyVContext
    unfold vsDirtied at this
    infer_instance
  unfold writeCSR
  repeat' first
    | infer_instance
    | exact keeps_writeReg (fun _ => rfl)
    | exact keeps_writeReg (hcounter _ _ _)
    | exact keeps_writeReg (hevent _)
    | refine @Exec.keeps_ite _ _ _ _ _ _ _ _ ?_ ?_

/-- What `pmpWriteCfg` makes of a configuration is not for writes only. -/
theorem readable_pmpWriteCfg {cfg : BitVec 8} (v : BitVec 8)
    (h : Pmpcfg.W.get cfg = 1#1 → Pmpcfg.R.get cfg = 1#1) :
    Pmpcfg.W.get (pmpWriteCfg cfg v) = 1#1 → Pmpcfg.R.get (pmpWriteCfg cfg v) = 1#1 := by
  unfold pmpWriteCfg
  by_cases hl : pmpLocked cfg = true
  · rw [if_pos hl]
    exact h
  · rw [if_neg hl]
    by_cases hG : 1 ≤ sysPmpGrain
    · simp only [hG, true_and]
      clear h hl
      revert v
      decide
    · simp only [hG, false_and, if_false]
      clear h hl
      revert v
      decide

omit [Platform] in
/-- A field of the lowest bits. -/
theorem get_setWidth {w n : ℕ} {f : Field} (hf : f.lsb + f.width ≤ n) (v : BitVec w) :
    f.get (v.setWidth n) = f.get v := by
  apply BitVec.eq_of_getLsbD_eq
  intro i hi
  have hlt : f.lsb + i < n := by omega
  simp only [Field.getLsbD_get, BitVec.getLsbD_setWidth, hlt, decide_true, Bool.true_and]

/-- `satp` names a mode after every write. -/
theorem mode_legalizeSatp (hx : xlen = 64) {a : Architecture} {o : Xlenbits} (v : Xlenbits)
    (h : (satp64ModeOfBits .RV64 (Satp64.Mode.get o)).isSome = true) :
    (satp64ModeOfBits .RV64 (Satp64.Mode.get (legalizeSatp a o v))).isSome = true := by
  have hold : (satp64ModeOfBits .RV64 (Satp64.Mode.get (o.setWidth 64))).isSome = true := by
    rw [get_setWidth (by decide)]
    exact h
  unfold legalizeSatp
  rw [if_neg (by omega), get_setWidth (by simp only; omega)]
  unfold legalizeSatp64
  cases hm : satp64ModeOfBits a (Satp64.Mode.get (v.setWidth 64)) with
  | none => exact hold
  | some m =>
      cases m with
      | Sv32 => exact hold
      | _ =>
          simp only
          generalize Satp64.Mode.get (v.setWidth 64) = b at hm ⊢
          revert hm
          cases a <;> revert b <;> decide

/-- A CSR write is such a step. -/
theorem checksStep_of_writeCSR {csr : BitVec 12} {value r : Xlenbits} {s s' : State}
    (h : (writeCSR csr value).run s = .ok (r, s')) : ChecksStep s s' := by
  have hw := (csrWritten_writeCSR csr value).rel h
  have htlb : s'.tlb = s.tlb := (keeps_sameTlb_writeCSR csr value).rel h
  intro hs
  constructor
  · intro hx
    rw [hw.mstatus, sxl_mstatusWritten hx]
    exact hs.sxl hx
  · intro hx
    rcases hw.satp with hsame | ⟨arch, -, hsatp⟩
    · rw [hsame]
      exact hs.mode hx
    · rw [hsatp]
      exact mode_legalizeSatp hx value (hs.mode hx)
  · exact hs.pmp.step (w := (csr, value)) ⟨r, h⟩
  · intro i
    rw [writeCSR_pmpcfg_apply h i]
    cases writtenCfg csr value i with
    | none => exact hs.readable i
    | some b => exact readable_pmpWriteCfg b (hs.readable i)
  · rw [htlb]
    exact hs.tlb

instance keeps_checks_zicsr (i : ZicsrInst) : Exec.Keeps ChecksStep i.execute :=
  keeps_zicsr (keeps_readCSR_of (R := ChecksStep)
      (fun _ => checksStep_of_eq rfl rfl ⟨rfl, rfl⟩ id) i.csr)
    (fun _ => ⟨checksStep_of_writeCSR⟩)

/-! ## Reachable states -/

/-- Nothing is translated or protected yet. -/
structure Blank (s : State) : Prop where
  satp : s.satp = 0#_
  pmp : PmpReset s
  tlb : ∀ i, s.tlb i = none

/-- A step between such states. -/
def BlankStep (s s' : State) : Prop := Blank s → Blank s'

instance : Std.Refl BlankStep := ⟨fun _ h => h⟩

instance : IsTrans State BlankStep := ⟨fun _ _ _ h h' hs => h' (h hs)⟩

/-- A step that leaves `satp`, the PMP and the look-aside buffer alone. -/
theorem blankStep_of_eq {s s' : State} (hsatp : s'.satp = s.satp) (hpmp : SamePmp s s')
    (htlb : s'.tlb = s.tlb) : BlankStep s s' := by
  intro h
  constructor
  · rw [hsatp]
    exact h.satp
  · exact ⟨by rw [hpmp.1]; exact h.pmp.1, by rw [hpmp.2]; exact h.pmp.2⟩
  · rw [htlb]
    exact h.tlb

/-- `init_pmp` leaves registers that are zero alone. -/
theorem Blank.initPmp {s : State} (h : Blank s) : Blank { s with
    pmpcfg := fun i =>
      Pmpcfg.L.set (Pmpcfg.A.set (s.pmpcfg i) (pmpAddrMatchTypeToBits .OFF)) 0#1 } := by
  refine ⟨h.satp, ⟨fun i => ?_, h.pmp.2⟩, h.tlb⟩
  dsimp only
  rw [h.pmp.1 i]
  decide

instance keeps_blank_initModel : Exec.Keeps BlankStep initModel := by
  have hpmp : Exec.Keeps BlankStep initPmp := by
    unfold SailRiscv.initPmp
    refine @Exec.keeps_bind _ _ _ _ _ _ _ _ inferInstance (fun _ => ?_)
    exact Exec.keeps_update (fun _ h => h.initPmp)
  have htlb : Exec.Keeps BlankStep initTLB :=
    Exec.keeps_update (fun _ h => ⟨h.satp, h.pmp, fun _ => rfl⟩)
  unfold initModel initPlatform initSys
  repeat' first
    | infer_instance
    | exact Exec.keeps_update (fun _ => blankStep_of_eq rfl ⟨rfl, rfl⟩ rfl)
    | refine @Exec.keeps_bind _ _ _ _ _ _ _ _ ?_ (fun _ => ?_)
    | refine @Exec.keeps_ite _ _ _ _ _ _ _ _ ?_ ?_

/-- The machine starts without translation and protection. -/
theorem Boots.blank {entry : Xlenbits} {s : State} (h : Boots entry s) : Blank s := by
  obtain ⟨mem, s₀, hinit, rfl⟩ := h
  have hstep : BlankStep (State.zero mem) s₀ := keeps_blank_initModel.rel hinit
  have hblank := hstep ⟨rfl, ⟨fun _ => rfl, fun _ => rfl⟩, fun _ => rfl⟩
  exact ⟨hblank.satp, hblank.pmp, hblank.tlb⟩

/-- `misa` names the architecture after a reset. -/
theorem mxl_initMisa (m : Xlenbits) :
    Misa.MXL.get (initMisa m) = archToBits (if xlen = 32 then .RV32 else .RV64) := by
  have hx := xlen_ge
  have hset {m : Xlenbits} {f : Field} (hf : f.lsb + f.width ≤ xlen - 2) (x : BitVec f.width) :
      Misa.MXL.get (f.set m x) = Misa.MXL.get m :=
    Field.get_set_of_apart (Or.inr hf) m x
  unfold initMisa
  simp only
  rw [hset (f := Misa.D) (by simp only; omega), hset (f := Misa.F) (by simp only; omega),
    hset (f := Misa.V) (by simp only; omega), hset (f := Misa.S) (by simp only; omega),
    hset (f := Misa.U) (by simp only; omega), hset (f := Misa.M) (by simp only; omega),
    hset (f := Misa.I) (by simp only; omega), hset (f := Misa.B) (by simp only; omega),
    hset (f := Misa.C) (by simp only; omega), hset (f := Misa.A) (by simp only; omega),
    Field.get_set (by show xlen - 2 + 2 ≤ xlen; omega)]

/-- `SXL` after a reset. -/
theorem sxl_initMstatus (hx : xlen = 64) (lowest : Privilege) :
    Mstatus.SXL.get (initMstatus 0#_ (initMisa 0#_) lowest) = archToBits .RV64 := by
  have hne : ¬ xlen = 32 := by omega
  unfold initMstatus setMstatusSXL setMstatusUXL
  simp only [if_pos hx, if_neg hne]
  refine (sxl_set (f := ⟨36, 2⟩) (by decide) _).trans ?_
  rw [sxl_set (by decide), sxl_set_sd, sxl_set (by decide),
    Field.get_set (by show 34 + 2 ≤ xlen; omega), mxl_initMisa, if_neg hne]

/-- The machine starts in such a state. -/
theorem Boots.checksLegal {entry : Xlenbits} {s : State} (h : Boots entry s) : ChecksLegal s := by
  obtain ⟨-, -, hmstatus⟩ := boots_cases h
  have hblank := h.blank
  constructor
  · intro hx
    rw [hmstatus]
    exact sxl_initMstatus hx _
  · intro hx
    rw [hblank.satp]
    unfold Field.get
    rw [BitVec.extractLsb'_zero]
    decide
  · exact hblank.pmp.legal
  · intro i hw
    rw [hblank.pmp.1 i] at hw
    cases hw
  · intro i e he
    rw [hblank.tlb i] at he
    cases he

section

variable [SoftFloat] {s s' : State}

/-- **Every turn of the loop is such a step.** -/
theorem Turns.checksStep {t : Turn} (h : Turns t s s') : ChecksStep s s' := by
  have hbegin (s : State) : ChecksStep s s.begin := checksStep_of_eq rfl rfl ⟨rfl, rfl⟩ id
  have hend (r : Retired) (s : State) : ChecksStep s (endStep r s) := by
    unfold endStep
    split <;> exact checksStep_of_eq rfl rfl ⟨rfl, rfl⟩ id
  exact h.rel_of hbegin hend keeps_checks_zicsr

/-- **What the checks of an access rely on holds in every reachable state.** -/
theorem checksLegal_of_trace {entry : Xlenbits} {s₀ : State}
    {path : List (State × Turn × State)} (hboot : Boots entry s₀)
    (h : Trace Turns s₀ path s) : ChecksLegal s :=
  h.invariant hboot.checksLegal (fun _ hs hstep => hstep.checksStep hs)

end

end SailRiscv
