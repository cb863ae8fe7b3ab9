/-
# What a write to a CSR does to the clocks

`clocksWritten` is what the registers of the timer and of the counters are after a completed
`write_CSR`: the inhibit bits, `mcycle`, `minstret` and the writable interrupts change
through their own CSRs only, and `mtime` and `mtimecmp` never.
-/
import SailRiscv.CsrWrites

namespace SailRiscv

open Bits Platform

variable [Platform]

/-! ## The registers -/

/-- The registers of the timer and of the counters. -/
structure Clocks where
  mip : Xlenbits
  mtime : BitVec 64
  mtimecmp : BitVec 64
  mcountinhibit : BitVec 32
  mcycle : BitVec 64
  minstret : BitVec 64
  minstretIncrement : Bool

/-- The registers of the timer and of the counters in a state. -/
def State.clocks (s : State) : Clocks where
  mip := s.mip
  mtime := s.mtime
  mtimecmp := s.mtimecmp
  mcountinhibit := s.mcountinhibit
  mcycle := s.mcycle
  minstret := s.minstret
  minstretIncrement := s.minstretIncrement

/-- The CSRs through which one of the registers is written. -/
def IsClockCsr (csr : BitVec 12) : Prop :=
  csr ∈ [0x344#12, 0x144#12, 0x320#12, 0xB00#12, 0xB80#12, 0xB02#12, 0xB82#12]

instance (csr : BitVec 12) : Decidable (IsClockCsr csr) := by
  unfold IsClockCsr
  infer_instance

/-- The registers after a write of `value` to `csr`. -/
def clocksWritten (s : State) (csr : BitVec 12) (value : Xlenbits) : Clocks :=
  if csr = 0x344#12 then { s.clocks with mip := legalizeMip s.mip value }
  else if csr = 0x144#12 then { s.clocks with mip := legalizeSip s.mip s.mideleg value }
  else if csr = 0x320#12 then { s.clocks with mcountinhibit := legalizeMcountinhibit value }
  else if csr = 0xB00#12 then { s.clocks with mcycle := setRange s.mcycle 0 value }
  else if csr = 0xB80#12 ∧ xlen = 32 then { s.clocks with mcycle := setRange s.mcycle 32 value }
  else if csr = 0xB02#12 then
    { s.clocks with
      minstret := setRange s.minstret 0 value
      minstretIncrement := false }
  else if csr = 0xB82#12 ∧ xlen = 32 then
    { s.clocks with
      minstret := setRange s.minstret 32 value
      minstretIncrement := false }
  else s.clocks

/-- A write to another CSR leaves the registers alone. -/
theorem clocksWritten_of_other {csr : BitVec 12} (hcsr : ¬ IsClockCsr csr) (s : State)
    (value : Xlenbits) : clocksWritten s csr value = s.clocks := by
  unfold IsClockCsr at hcsr
  simp only [List.mem_cons, List.not_mem_nil, or_false, not_or] at hcsr
  obtain ⟨h344, h144, h320, hB00, hB80, hB02, hB82⟩ := hcsr
  unfold clocksWritten
  rw [if_neg h344, if_neg h144, if_neg h320, if_neg hB00, if_neg (fun h => hB80 h.1), if_neg hB02,
    if_neg (fun h => hB82 h.1)]

/-- The registers are those after a write of `value` to `csr`. -/
def ClocksWritten (csr : BitVec 12) (value : Xlenbits) (s s' : State) : Prop :=
  s'.clocks = clocksWritten s csr value

/-! ## Single writes -/

/-- A computation that leaves the registers alone, for another CSR. -/
theorem clocksWritten_other {csr : BitVec 12} {value : Xlenbits} {m : M Xlenbits}
    (hcsr : ¬ IsClockCsr csr)
    (hm : ∀ {s r s'}, m.run s = .ok (r, s') → s'.clocks = s.clocks) :
    Exec.Keeps (ClocksWritten csr value) m where
  rel hr := (hm hr).trans (clocksWritten_of_other hcsr _ _).symm

/-- A register write to another CSR. -/
theorem clocksWritten_writeOther {csr : BitVec 12} {value : Xlenbits} {write : State → State}
    {read : State → Xlenbits} (hcsr : ¬ IsClockCsr csr)
    (hwrite : ∀ s, (write s).clocks = s.clocks) :
    Exec.Keeps (ClocksWritten csr value) (writeReg write read) :=
  clocksWritten_other hcsr (fun {s r s'} hr => by
    cases hr
    exact hwrite s)

/-- A register write that does what `clocksWritten` says. -/
theorem clocksWritten_writeReg {csr : BitVec 12} {value : Xlenbits} {write : State → State}
    {read : State → Xlenbits} (h : ∀ s, (write s).clocks = clocksWritten s csr value) :
    Exec.Keeps (ClocksWritten csr value) (writeReg write read) where
  rel {s a s'} hr := by
    cases hr
    exact h s

omit [Platform] in
/-- The PMP registers are none of the CSRs of the clocks. -/
theorem not_isClockCsr_of_block {csr : BitVec 12}
    (h : csr.extractLsb' 4 8 ∈ [0x3A#8, 0x3B#8, 0x3C#8, 0x3D#8, 0x3E#8]) : ¬ IsClockCsr csr := by
  unfold IsClockCsr
  simp only [List.mem_cons, List.not_mem_nil, or_false]
  rintro (rfl | rfl | rfl | rfl | rfl | rfl | rfl) <;> exact absurd h (by decide)

omit [Platform] in
/-- Nor are the performance-monitoring registers. -/
theorem not_isClockCsr_of_hpmIdx {block : BitVec 7} {csr : BitVec 12}
    (h : (hpmIdx block csr).isSome) (hb : block ∈ [0b0011001#7, 0b1011000#7, 0b1011100#7]) :
    ¬ IsClockCsr csr := by
  unfold hpmIdx at h
  split at h
  · next hblock =>
      obtain ⟨hblock, hlow⟩ := hblock
      subst hblock
      unfold IsClockCsr
      simp only [List.mem_cons, List.not_mem_nil, or_false] at hb ⊢
      rintro (rfl | rfl | rfl | rfl | rfl | rfl | rfl) <;>
        first
        | exact absurd hb (by decide)
        | exact absurd hlow (by decide)
  · cases h

theorem clocks_writeMhpmcounterAt {n : ℕ} (i : Fin 32) (lo : ℕ) (value : BitVec n) (s : State) :
    (writeMhpmcounterAt i lo value s).clocks = s.clocks := by
  unfold writeMhpmcounterAt
  split <;> rfl

theorem clocks_writeMhpmevent (i : Fin 32) (value : Xlenbits) (s : State) :
    (writeMhpmevent i value s).clocks = s.clocks := by
  unfold writeMhpmevent
  split <;> rfl

/-- The clause for a PMP configuration register. -/
theorem clocksWritten_pmpcfg {csr : BitVec 12} {value : Xlenbits}
    (h : (pmpcfgIdx csr).any pmpcfgEven = true) :
    Exec.Keeps (ClocksWritten csr value) (do
      pmpWriteCfgReg ((pmpcfgIdx csr).getD 0) value
      Exec.checks (fun s => pmpReadCfgReg s ((pmpcfgIdx csr).getD 0))) := by
  refine clocksWritten_other ?_ (fun {s r s'} hr => ?_)
  · cases hn : pmpcfgIdx csr with
    | none => rw [hn] at h; cases h
    | some n =>
        apply not_isClockCsr_of_block
        rw [block_of_pmpcfgIdx hn]
        decide
  · obtain ⟨u, s₁, hw, hread⟩ := Exec.run_bind_ok.mp hr
    obtain ⟨-, rfl⟩ := Exec.run_checks_ok.mp hread
    rw [run_pmpWriteCfgReg (even_of_any h)] at hw
    cases hw
    rfl

/-- The clause for a PMP address register. -/
theorem clocksWritten_pmpaddr {csr : BitVec 12} {value : Xlenbits} (h : (pmpaddrIdx csr).isSome) :
    Exec.Keeps (ClocksWritten csr value) (do
      pmpWriteAddrReg ((pmpaddrIdx csr).getD 0) value
      Exec.reads (fun s => pmpReadAddrReg s ((pmpaddrIdx csr).getD 0))) := by
  refine clocksWritten_other ?_ (fun {s r s'} hr => ?_)
  · obtain ⟨n, hn⟩ := Option.isSome_iff_exists.mp h
    apply not_isClockCsr_of_block
    rcases block_of_pmpaddrIdx hn with hb | hb | hb | hb <;> rw [hb] <;> decide
  · cases hr
    rfl

theorem clocks_of_extWriteVcsr {vxrm : BitVec 2} {vxsat : BitVec 1} {s s' : State} {u : Unit}
    (h : (extWriteVcsr vxrm vxsat).run s = .ok (u, s')) : s'.clocks = s.clocks := by
  rw [run_extWriteVcsr_ok h]
  rfl

theorem clocks_of_writeFcsr {frm : BitVec 3} {fflags : BitVec 5} {s s' : State} {u : Unit}
    (h : (writeFcsr frm fflags).run s = .ok (u, s')) : s'.clocks = s.clocks := by
  rw [run_writeFcsr_ok h]
  rfl

/-! ## The whole function -/

/-- **What `write_CSR` does to the clocks.** -/
theorem clocksWritten_writeCSR (csr : BitVec 12) (value : Xlenbits) :
    Exec.Keeps (ClocksWritten csr value) (writeCSR csr value) := by
  unfold writeCSR
  repeat' first
    | exact clocksWritten_pmpcfg (by assumption)
    | exact clocksWritten_pmpaddr (by assumption)
    | (subst hc; exact clocksWritten_writeOther (by decide) (fun _ => rfl))
    | (subst hc; exact clocksWritten_writeReg (fun _ => rfl))
    | (obtain ⟨rfl, -⟩ := hc; exact clocksWritten_writeOther (by decide) (fun _ => rfl))
    | refine Exec.keeps_of_ite (fun hc => ?_) (fun hc => ?_)
  -- `mstatush` has no writable field
  · obtain ⟨rfl, -⟩ := hc
    exact clocksWritten_other (by decide) (fun hr => by cases hr; rfl)
  -- the views of `vcsr`
  · refine clocksWritten_other (by subst hc; decide) (fun {s r s'} hr => ?_)
    obtain ⟨_, s₁, h₁, hw⟩ := Exec.run_bind_ok.mp hr
    cases h₁
    obtain ⟨_, s₂, h₂, hend⟩ := Exec.run_bind_ok.mp hw
    cases hend
    exact clocks_of_extWriteVcsr h₂
  · refine clocksWritten_other (by subst hc; decide) (fun {s r s'} hr => ?_)
    obtain ⟨_, s₁, h₁, hw⟩ := Exec.run_bind_ok.mp hr
    cases h₁
    obtain ⟨_, s₂, h₂, hend⟩ := Exec.run_bind_ok.mp hw
    cases hend
    exact clocks_of_extWriteVcsr h₂
  · refine clocksWritten_other (by subst hc; decide) (fun {s r s'} hr => ?_)
    obtain ⟨_, s₂, h₂, hend⟩ := Exec.run_bind_ok.mp hr
    cases hend
    exact clocks_of_extWriteVcsr h₂
  -- the exception program counters
  · exact clocksWritten_other (by subst hc; decide) (fun hr => by cases hr; rfl)
  · exact clocksWritten_other (by subst hc; decide) (fun hr => by cases hr; rfl)
  -- the performance-monitoring registers
  · exact clocksWritten_writeOther (not_isClockCsr_of_hpmIdx hc (by decide))
      (clocks_writeMhpmevent _ value)
  · exact clocksWritten_writeOther (not_isClockCsr_of_hpmIdx hc (by decide))
      (clocks_writeMhpmcounterAt _ 0 value)
  · exact clocksWritten_writeOther (not_isClockCsr_of_hpmIdx hc.1 (by decide))
      (clocks_writeMhpmcounterAt _ 32 value)
  -- the entropy source ignores writes
  · exact clocksWritten_other (by subst hc; decide) (fun hr => by cases hr; rfl)
  -- the upper halves of the counters
  · obtain ⟨rfl, hx⟩ := hc
    refine clocksWritten_writeReg (fun s => ?_)
    exact (if_pos (show _ ∧ xlen = 32 from ⟨rfl, hx⟩)).symm
  · obtain ⟨rfl, hx⟩ := hc
    refine clocksWritten_writeReg (fun s => ?_)
    exact (if_pos (show _ ∧ xlen = 32 from ⟨rfl, hx⟩)).symm
  -- the views of `fcsr`
  · refine clocksWritten_other (by subst hc; decide) (fun {s r s'} hr => ?_)
    obtain ⟨_, s₁, h₁, hw⟩ := Exec.run_bind_ok.mp hr
    cases h₁
    obtain ⟨_, s₂, h₂, hend⟩ := Exec.run_bind_ok.mp hw
    cases hend
    exact clocks_of_writeFcsr h₂
  · refine clocksWritten_other (by subst hc; decide) (fun {s r s'} hr => ?_)
    obtain ⟨_, s₁, h₁, hw⟩ := Exec.run_bind_ok.mp hr
    cases h₁
    obtain ⟨_, s₂, h₂, hend⟩ := Exec.run_bind_ok.mp hw
    cases hend
    exact clocks_of_writeFcsr h₂
  · refine clocksWritten_other (by subst hc; decide) (fun {s r s'} hr => ?_)
    obtain ⟨_, s₂, h₂, hend⟩ := Exec.run_bind_ok.mp hr
    cases hend
    exact clocks_of_writeFcsr h₂
  · refine clocksWritten_other (by subst hc; decide) (fun {s r s'} hr => ?_)
    unfold writeSatp at hr
    obtain ⟨arch, s₁, h₁, hset⟩ := Exec.run_bind_ok.mp hr
    obtain ⟨harch, rfl⟩ := Exec.run_checks_ok.mp h₁
    cases hset
    rfl
  -- no clause: the model stops
  · unfold internalError
    infer_instance

end SailRiscv
