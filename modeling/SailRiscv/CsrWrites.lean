/-
# What a write to a CSR changes

`CsrWritten` says, register by register, what a completed `write_CSR` does to the registers
that the control flow, the interrupts and the extension contexts depend on.  The facts about
these registers that hold in every reachable state are derived from it.
-/
import SailRiscv.CsrAccess

namespace SailRiscv

open Bits Platform

variable [Platform]

/-! ## The registers after a write -/

/-- `mstatus` with the floating-point context marked as dirty. -/
def fsDirtied (m : Xlenbits) : Xlenbits :=
  Mstatus.SD.set (Mstatus.FS.set m (extStatusToBits .Dirty)) 1#1

/-- `mstatus` with the vector context marked as dirty. -/
def vsDirtied (m : Xlenbits) : Xlenbits :=
  Mstatus.SD.set (Mstatus.VS.set m (extStatusToBits .Dirty)) 1#1

/-- The number of one of the views of `vcsr`. -/
def IsVcsr (csr : BitVec 12) : Prop := csr = 0x009#12 ∨ csr = 0x00A#12 ∨ csr = 0x00F#12

instance (csr : BitVec 12) : Decidable (IsFpCsr csr) := by
  unfold IsFpCsr
  infer_instance

instance (csr : BitVec 12) : Decidable (IsVcsr csr) := by
  unfold IsVcsr
  infer_instance

/-- `mstatus` after a write of `value` to `csr`. -/
def mstatusWritten (s : State) (csr : BitVec 12) (value : Xlenbits) : Xlenbits :=
  if csr = 0x300#12 then legalizeMstatus s s.mstatus value
  else if csr = 0x100#12 then legalizeSstatus s s.mstatus value
  else if IsFpCsr csr then (if sysEnableFdext then fsDirtied s.mstatus else s.mstatus)
  else if IsVcsr csr then (if sysEnableVext then vsDirtied s.mstatus else s.mstatus)
  else s.mstatus

/-- `mie` after a write of `value` to `csr`. -/
def mieWritten (s : State) (csr : BitVec 12) (value : Xlenbits) : Xlenbits :=
  if csr = 0x304#12 then legalizeMie s.mie value
  else if csr = 0x104#12 then legalizeSie s.mie s.mideleg value
  else s.mie

/-- What a write of `value` to `csr` changes and what it leaves alone. -/
structure CsrWritten (csr : BitVec 12) (value : Xlenbits) (s s' : State) : Prop where
  pc : s'.pc = s.pc
  nextPC : s'.nextPC = s.nextPC
  curPrivilege : s'.curPrivilege = s.curPrivilege
  misa : s'.misa = if csr = 0x301#12 then legalizeMisa s s.misa value else s.misa
  mstatus : s'.mstatus = mstatusWritten s csr value
  mie : s'.mie = mieWritten s csr value
  mideleg : s'.mideleg = if csr = 0x303#12 then legalizeMideleg s.mideleg value else s.mideleg
  mtvec : s'.mtvec = if csr = 0x305#12 then legalizeTvec s.mtvec value else s.mtvec
  stvec : s'.stvec = if csr = 0x105#12 then legalizeTvec s.stvec value else s.stvec
  mepc : s'.mepc = if csr = 0x341#12 then legalizeXepc s value else s.mepc
  sepc : s'.sepc = if csr = 0x141#12 then legalizeXepc s value else s.sepc
  satp : s'.satp = s.satp ∨ ∃ arch, curArchitecture s = .ok arch
    ∧ s'.satp = legalizeSatp arch s.satp value
  x : s'.x = s.x
  f : s'.f = s.f
  fcsr : ¬ IsFpCsr csr → s'.fcsr = s.fcsr
  v : s'.v = s.v
  vl : s'.vl = s.vl
  vtype : s'.vtype = s.vtype
  vstart : csr ≠ 0x008#12 → s'.vstart = s.vstart
  vcsr : ¬ IsVcsr csr → s'.vcsr = s.vcsr

/-- The registers of `CsrWritten`, apart from `vstart`. -/
structure Ctl where
  pc : Xlenbits
  nextPC : Xlenbits
  curPrivilege : Privilege
  misa : Xlenbits
  mstatus : Xlenbits
  mie : Xlenbits
  mideleg : Xlenbits
  mtvec : Xlenbits
  stvec : Xlenbits
  mepc : Xlenbits
  sepc : Xlenbits
  satp : Xlenbits
  x : Fin 32 → Xlenbits
  f : Fin 32 → BitVec flen
  fcsr : BitVec 32
  v : Fin 32 → BitVec 65536
  vl : Xlenbits
  vtype : Xlenbits
  vcsr : BitVec 3

/-- The registers of `CsrWritten` in a state. -/
def State.ctl (s : State) : Ctl where
  pc := s.pc
  nextPC := s.nextPC
  curPrivilege := s.curPrivilege
  misa := s.misa
  mstatus := s.mstatus
  mie := s.mie
  mideleg := s.mideleg
  mtvec := s.mtvec
  stvec := s.stvec
  mepc := s.mepc
  sepc := s.sepc
  satp := s.satp
  x := s.x
  f := s.f
  fcsr := s.fcsr
  v := s.v
  vl := s.vl
  vtype := s.vtype
  vcsr := s.vcsr

/-- The CSRs that hold a register of `CsrWritten`, apart from `satp` and `vstart`. -/
def IsCtlCsr (csr : BitVec 12) : Prop :=
  csr ∈ [0x300#12, 0x100#12, 0x301#12, 0x304#12, 0x104#12, 0x303#12, 0x305#12, 0x105#12,
    0x341#12, 0x141#12, 0x001#12, 0x002#12, 0x003#12, 0x009#12, 0x00A#12, 0x00F#12]

instance (csr : BitVec 12) : Decidable (IsCtlCsr csr) := by
  unfold IsCtlCsr
  infer_instance

/-- A write to a CSR that holds none of these registers leaves them alone. -/
theorem csrWritten_of_other {csr : BitVec 12} {value : Xlenbits} {s s' : State}
    (hcsr : ¬ IsCtlCsr csr) (hctl : s'.ctl = s.ctl)
    (hvstart : csr ≠ 0x008#12 → s'.vstart = s.vstart) : CsrWritten csr value s s' := by
  unfold IsCtlCsr at hcsr
  simp only [List.mem_cons, List.not_mem_nil, or_false, not_or] at hcsr
  obtain ⟨h300, h100, h301, h304, h104, h303, h305, h105, h341, h141, h1, h2, h3, h9, hA, hF⟩ :=
    hcsr
  have hfp : ¬ IsFpCsr csr := by
    rintro (h | h | h)
    · exact h1 h
    · exact h2 h
    · exact h3 h
  have hvc : ¬ IsVcsr csr := by
    rintro (h | h | h)
    · exact h9 h
    · exact hA h
    · exact hF h
  constructor
  case pc => exact congrArg Ctl.pc hctl
  case nextPC => exact congrArg Ctl.nextPC hctl
  case curPrivilege => exact congrArg Ctl.curPrivilege hctl
  case misa =>
    rw [if_neg h301]
    exact congrArg Ctl.misa hctl
  case mstatus =>
    rw [mstatusWritten, if_neg h300, if_neg h100, if_neg hfp, if_neg hvc]
    exact congrArg Ctl.mstatus hctl
  case mie =>
    rw [mieWritten, if_neg h304, if_neg h104]
    exact congrArg Ctl.mie hctl
  case mideleg =>
    rw [if_neg h303]
    exact congrArg Ctl.mideleg hctl
  case mtvec =>
    rw [if_neg h305]
    exact congrArg Ctl.mtvec hctl
  case stvec =>
    rw [if_neg h105]
    exact congrArg Ctl.stvec hctl
  case mepc =>
    rw [if_neg h341]
    exact congrArg Ctl.mepc hctl
  case sepc =>
    rw [if_neg h141]
    exact congrArg Ctl.sepc hctl
  case satp => exact Or.inl (congrArg Ctl.satp hctl)
  case x => exact congrArg Ctl.x hctl
  case f => exact congrArg Ctl.f hctl
  case fcsr => exact fun _ => congrArg Ctl.fcsr hctl
  case v => exact congrArg Ctl.v hctl
  case vl => exact congrArg Ctl.vl hctl
  case vtype => exact congrArg Ctl.vtype hctl
  case vstart => exact hvstart
  case vcsr => exact fun _ => congrArg Ctl.vcsr hctl

/-! ## Single writes -/

/-- A register write writes the CSR when its update does. -/
theorem csrWritten_writeReg {csr : BitVec 12} {value : Xlenbits} {write : State → State}
    {read : State → Xlenbits} (h : ∀ s, CsrWritten csr value s (write s)) :
    Exec.Keeps (CsrWritten csr value) (writeReg write read) where
  rel {s a s'} hr := by
    cases hr
    exact h s

/-- A computation that leaves the registers of `CsrWritten` alone, for another CSR. -/
theorem csrWritten_other {csr : BitVec 12} {value : Xlenbits} {m : M Xlenbits}
    (hcsr : ¬ IsCtlCsr csr)
    (hm : ∀ {s r s'}, m.run s = .ok (r, s') → s'.ctl = s.ctl ∧ s'.vstart = s.vstart) :
    Exec.Keeps (CsrWritten csr value) m where
  rel hr := csrWritten_of_other hcsr (hm hr).1 (fun _ => (hm hr).2)

/-- A register write to another CSR. -/
theorem csrWritten_writeOther {csr : BitVec 12} {value : Xlenbits} {write : State → State}
    {read : State → Xlenbits} (hcsr : ¬ IsCtlCsr csr)
    (hwrite : ∀ s, (write s).ctl = s.ctl ∧ (write s).vstart = s.vstart) :
    Exec.Keeps (CsrWritten csr value) (writeReg write read) :=
  csrWritten_other hcsr (fun {s r s'} hr => by
    cases hr
    exact hwrite s)

theorem ctl_writeMhpmcounterAt {n : ℕ} (i : Fin 32) (lo : ℕ) (value : BitVec n) (s : State) :
    (writeMhpmcounterAt i lo value s).ctl = s.ctl
      ∧ (writeMhpmcounterAt i lo value s).vstart = s.vstart := by
  unfold writeMhpmcounterAt
  split <;> exact ⟨rfl, rfl⟩

theorem ctl_writeMhpmevent (i : Fin 32) (value : Xlenbits) (s : State) :
    (writeMhpmevent i value s).ctl = s.ctl ∧ (writeMhpmevent i value s).vstart = s.vstart := by
  unfold writeMhpmevent
  split <;> exact ⟨rfl, rfl⟩

/-- The clause for a PMP register. -/
theorem csrWritten_pmpcfg {csr : BitVec 12} {value : Xlenbits}
    (h : (pmpcfgIdx csr).any pmpcfgEven = true) :
    Exec.Keeps (CsrWritten csr value) (do
      pmpWriteCfgReg ((pmpcfgIdx csr).getD 0) value
      Exec.checks (fun s => pmpReadCfgReg s ((pmpcfgIdx csr).getD 0))) := by
  refine csrWritten_other ?_ (fun {s r s'} hr => ?_)
  · cases hn : pmpcfgIdx csr with
    | none => rw [hn] at h; cases h
    | some n =>
        have hb := block_of_pmpcfgIdx hn
        unfold IsCtlCsr
        simp only [List.mem_cons, List.not_mem_nil, or_false]
        rintro (rfl | rfl | rfl | rfl | rfl | rfl | rfl | rfl | rfl | rfl | rfl | rfl | rfl | rfl
          | rfl | rfl) <;> exact absurd hb (by decide)
  · obtain ⟨u, s₁, hw, hread⟩ := Exec.run_bind_ok.mp hr
    obtain ⟨-, rfl⟩ := Exec.run_checks_ok.mp hread
    rw [run_pmpWriteCfgReg (even_of_any h)] at hw
    cases hw
    exact ⟨rfl, rfl⟩

theorem csrWritten_pmpaddr {csr : BitVec 12} {value : Xlenbits} (h : (pmpaddrIdx csr).isSome) :
    Exec.Keeps (CsrWritten csr value) (do
      pmpWriteAddrReg ((pmpaddrIdx csr).getD 0) value
      Exec.reads (fun s => pmpReadAddrReg s ((pmpaddrIdx csr).getD 0))) := by
  refine csrWritten_other ?_ (fun {s r s'} hr => ?_)
  · obtain ⟨n, hn⟩ := Option.isSome_iff_exists.mp h
    have hb := block_of_pmpaddrIdx hn
    unfold IsCtlCsr
    simp only [List.mem_cons, List.not_mem_nil, or_false]
    rintro (rfl | rfl | rfl | rfl | rfl | rfl | rfl | rfl | rfl | rfl | rfl | rfl | rfl | rfl
      | rfl | rfl) <;> exact absurd hb (by decide)
  · cases hr
    exact ⟨rfl, rfl⟩

omit [Platform] in
/-- The performance-monitoring registers hold none of the registers of `CsrWritten`. -/
theorem not_isCtlCsr_of_hpmIdx {block : BitVec 7} {csr : BitVec 12} (h : (hpmIdx block csr).isSome)
    (hb : block ∈ [0b0011001#7, 0b1011000#7, 0b1011100#7]) : ¬ IsCtlCsr csr := by
  unfold hpmIdx at h
  split at h
  · next hblock =>
      obtain ⟨hblock, -⟩ := hblock
      subst hblock
      unfold IsCtlCsr
      simp only [List.mem_cons, List.not_mem_nil, or_false] at hb ⊢
      rintro (rfl | rfl | rfl | rfl | rfl | rfl | rfl | rfl | rfl | rfl | rfl | rfl | rfl | rfl
        | rfl | rfl) <;> exact absurd hb (by decide)
  · cases h

/-- A completed write of `fcsr`. -/
theorem run_writeFcsr_ok {frm : BitVec 3} {fflags : BitVec 5} {s s' : State} {u : Unit}
    (h : (writeFcsr frm fflags).run s = .ok (u, s')) :
    s' = { s with
      fcsr := Fcsr.FFLAGS.set (Fcsr.FRM.set s.fcsr frm) fflags
      mstatus := if sysEnableFdext then fsDirtied s.mstatus else s.mstatus } := by
  unfold writeFcsr dirtyFdContextIfPresent dirtyFdContext at h
  obtain ⟨_, s₁, h₁, h⟩ := Exec.run_bind_ok.mp h
  cases h₁
  obtain ⟨_, s₂, h₂, h⟩ := Exec.run_bind_ok.mp h
  have hs₂ := (keeps_assert (R := Eq) _ _).rel h₂
  subst hs₂
  by_cases hf : sysEnableFdext = true
  · rw [if_pos hf] at h
    obtain ⟨_, s₃, h₃, h⟩ := Exec.run_bind_ok.mp h
    have hs₃ := (keeps_assert (R := Eq) _ _).rel h₃
    subst hs₃
    cases h
    rw [if_pos hf]
    rfl
  · rw [if_neg hf] at h
    cases h
    rw [if_neg hf]

/-- A completed write of `vcsr`. -/
theorem run_extWriteVcsr_ok {vxrm : BitVec 2} {vxsat : BitVec 1} {s s' : State} {u : Unit}
    (h : (extWriteVcsr vxrm vxsat).run s = .ok (u, s')) :
    s' = { s with
      vcsr := Vcsr.vxsat.set (Vcsr.vxrm.set s.vcsr vxrm) vxsat
      mstatus := if sysEnableVext then vsDirtied s.mstatus else s.mstatus } := by
  unfold extWriteVcsr dirtyVContextIfPresent dirtyVContext at h
  obtain ⟨_, s₁, h₁, h⟩ := Exec.run_bind_ok.mp h
  cases h₁
  by_cases hv : sysEnableVext = true
  · rw [if_pos hv] at h
    obtain ⟨_, s₃, h₃, h⟩ := Exec.run_bind_ok.mp h
    have hs₃ := (keeps_assert (R := Eq) _ _).rel h₃
    subst hs₃
    cases h
    rw [if_pos hv]
    rfl
  · rw [if_neg hv] at h
    cases h
    rw [if_neg hv]

/-- A write of a floating-point CSR. -/
theorem csrWritten_of_writeFcsr {csr : BitVec 12} {value : Xlenbits} {frm : BitVec 3}
    {fflags : BitVec 5} {s s' : State} {u : Unit} (hcsr : IsFpCsr csr)
    (h : (writeFcsr frm fflags).run s = .ok (u, s')) : CsrWritten csr value s s' := by
  rw [run_writeFcsr_ok h]
  rcases hcsr with rfl | rfl | rfl <;> constructor <;>
    first
    | rfl
    | exact Or.inl rfl
    | exact fun _ => rfl
    | exact fun h => absurd (by decide) h

/-- A write of a view of `vcsr`. -/
theorem csrWritten_of_extWriteVcsr {csr : BitVec 12} {value : Xlenbits} {vxrm : BitVec 2}
    {vxsat : BitVec 1} {s s' : State} {u : Unit} (hcsr : IsVcsr csr)
    (h : (extWriteVcsr vxrm vxsat).run s = .ok (u, s')) : CsrWritten csr value s s' := by
  rw [run_extWriteVcsr_ok h]
  rcases hcsr with rfl | rfl | rfl <;> constructor <;>
    first
    | rfl
    | exact Or.inl rfl
    | exact fun _ => rfl
    | exact fun h => absurd (by decide) h

/-- The write of `satp`. -/
theorem csrWritten_satp (value : Xlenbits) :
    Exec.Keeps (CsrWritten 0x180#12 value) (writeSatp value) where
  rel {s a s'} hr := by
    unfold writeSatp at hr
    obtain ⟨arch, s₁, h₁, hset⟩ := Exec.run_bind_ok.mp hr
    obtain ⟨harch, rfl⟩ := Exec.run_checks_ok.mp h₁
    cases hset
    constructor <;>
      first
      | rfl
      | exact Or.inr ⟨arch, harch, rfl⟩
      | exact fun _ => rfl

/-! ## The whole function -/

/-- **What `write_CSR` does.** -/
theorem csrWritten_writeCSR (csr : BitVec 12) (value : Xlenbits) :
    Exec.Keeps (CsrWritten csr value) (writeCSR csr value) := by
  unfold writeCSR
  repeat' first
    | exact csrWritten_pmpcfg (by assumption)
    | exact csrWritten_pmpaddr (by assumption)
    | (subst hc; exact csrWritten_writeOther (by decide) (fun _ => ⟨rfl, rfl⟩))
    | (subst hc
       refine csrWritten_writeReg (fun s => ?_)
       constructor <;>
       first
       | rfl
       | exact Or.inl rfl
       | exact fun _ => rfl
       | exact fun h => absurd rfl h)
    | (obtain ⟨rfl, -⟩ := hc; exact csrWritten_writeOther (by decide) (fun _ => ⟨rfl, rfl⟩))
    | refine Exec.keeps_of_ite (fun hc => ?_) (fun hc => ?_)
  -- `mstatush` has no writable field
  · obtain ⟨rfl, -⟩ := hc
    exact csrWritten_other (by decide) (fun hr => by cases hr; exact ⟨rfl, rfl⟩)
  -- the views of `vcsr`
  · refine ⟨fun {s a s'} hr => ?_⟩
    obtain ⟨_, s₁, h₁, hw⟩ := Exec.run_bind_ok.mp hr
    cases h₁
    obtain ⟨_, s₂, h₂, hend⟩ := Exec.run_bind_ok.mp hw
    cases hend
    exact csrWritten_of_extWriteVcsr (Or.inl hc) h₂
  · refine ⟨fun {s a s'} hr => ?_⟩
    obtain ⟨_, s₁, h₁, hw⟩ := Exec.run_bind_ok.mp hr
    cases h₁
    obtain ⟨_, s₂, h₂, hend⟩ := Exec.run_bind_ok.mp hw
    cases hend
    exact csrWritten_of_extWriteVcsr (Or.inr (Or.inl hc)) h₂
  · refine ⟨fun {s a s'} hr => ?_⟩
    obtain ⟨_, s₂, h₂, hend⟩ := Exec.run_bind_ok.mp hr
    cases hend
    exact csrWritten_of_extWriteVcsr (Or.inr (Or.inr hc)) h₂
  -- the exception program counters
  · subst hc
    refine ⟨fun {s a s'} hr => ?_⟩
    cases hr
    constructor <;>
      first
      | rfl
      | exact Or.inl rfl
      | exact fun _ => rfl
  · subst hc
    refine ⟨fun {s a s'} hr => ?_⟩
    cases hr
    constructor <;>
      first
      | rfl
      | exact Or.inl rfl
      | exact fun _ => rfl
  -- the performance-monitoring registers
  · exact csrWritten_writeOther (not_isCtlCsr_of_hpmIdx hc (by decide))
      (ctl_writeMhpmevent _ value)
  · exact csrWritten_writeOther (not_isCtlCsr_of_hpmIdx hc (by decide))
      (ctl_writeMhpmcounterAt _ 0 value)
  · exact csrWritten_writeOther (not_isCtlCsr_of_hpmIdx hc.1 (by decide))
      (ctl_writeMhpmcounterAt _ 32 value)
  -- the entropy source ignores writes
  · subst hc
    exact csrWritten_other (by decide) (fun hr => by cases hr; exact ⟨rfl, rfl⟩)
  -- the views of `fcsr`
  · refine ⟨fun {s a s'} hr => ?_⟩
    obtain ⟨_, s₁, h₁, hw⟩ := Exec.run_bind_ok.mp hr
    cases h₁
    obtain ⟨_, s₂, h₂, hend⟩ := Exec.run_bind_ok.mp hw
    cases hend
    exact csrWritten_of_writeFcsr (Or.inl hc) h₂
  · refine ⟨fun {s a s'} hr => ?_⟩
    obtain ⟨_, s₁, h₁, hw⟩ := Exec.run_bind_ok.mp hr
    cases h₁
    obtain ⟨_, s₂, h₂, hend⟩ := Exec.run_bind_ok.mp hw
    cases hend
    exact csrWritten_of_writeFcsr (Or.inr (Or.inl hc)) h₂
  · refine ⟨fun {s a s'} hr => ?_⟩
    obtain ⟨_, s₂, h₂, hend⟩ := Exec.run_bind_ok.mp hr
    cases hend
    exact csrWritten_of_writeFcsr (Or.inr (Or.inr hc)) h₂
  · subst hc
    exact csrWritten_satp value
  -- no clause: the model stops
  · unfold internalError
    infer_instance

end SailRiscv
