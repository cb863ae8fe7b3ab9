/-
# Confinement of the lower privileges

What the hart does below Machine mode cannot reach the registers of Machine mode, nor the bytes of
the memory that the PMP denies to User and Supervisor mode: over a stretch of a run in which every
step starts below Machine mode, these registers keep their values, and in the same way a stretch
in User mode cannot reach the registers of Supervisor mode (`confinement`).  The denied bytes keep
their values as long as Machine mode is not entered (`pmp_integrity`).

One relation carries the two results about Machine mode: `Confined` says what a step changes, and
every operation below Machine mode keeps it.
-/
import SailRiscv.BelowMachine
import SailRiscv.Mprv
import SailRiscv.PmpMono

namespace SailRiscv

open Bits Platform

variable [Platform]

/-! ## The registers of Machine mode -/

/-- The fields of `mstatus` with which Machine mode restricts the modes below. -/
structure Gates where
  tvm : BitVec 1
  tw : BitVec 1
  tsr : BitVec 1
  sxl : BitVec 2
  uxl : BitVec 2

/-- These fields in a value of `mstatus`. -/
def gates (m : Xlenbits) : Gates where
  tvm := Mstatus.TVM.get m
  tw := Mstatus.TW.get m
  tsr := Mstatus.TSR.get m
  sxl := getMstatusSXL m
  uxl := getMstatusUXL m

/-- The registers that Machine mode keeps for itself.  `mip`, `mcycle` and `minstret`, which follow
the devices, the clock and the instructions of every mode, are not among them. -/
structure MachineRegs where
  misa : Xlenbits
  medeleg : Xlenbits
  mideleg : Xlenbits
  /-- The enables of the interrupts that are not delegated. -/
  mie : Xlenbits
  mtvec : Xlenbits
  mscratch : Xlenbits
  mstatush : BitVec 32
  menvcfg : BitVec 64
  mcounteren : BitVec 32
  mcountinhibit : BitVec 32
  tselect : Xlenbits
  mhpmcounter : Fin 32 → BitVec 64
  mhpmevent : Fin 32 → Xlenbits
  pmpcfg : Fin 64 → BitVec 8
  pmpaddr : Fin 64 → Xlenbits
  gates : Gates

/-- The registers of Machine mode in a state. -/
def State.machineRegs (s : State) : MachineRegs where
  misa := s.misa
  medeleg := s.medeleg
  mideleg := s.mideleg
  mie := s.mie &&& ~~~s.mideleg
  mtvec := s.mtvec
  mscratch := s.mscratch
  mstatush := s.mstatush
  menvcfg := s.menvcfg
  mcounteren := s.mcounteren
  mcountinhibit := s.mcountinhibit
  tselect := s.tselect
  mhpmcounter := s.mhpmcounter
  mhpmevent := s.mhpmevent
  pmpcfg := s.pmpcfg
  pmpaddr := s.pmpaddr
  gates := gates s.mstatus

/-- The registers that change when a trap enters Machine mode. -/
structure MachineTrap where
  mepc : Xlenbits
  mcause : Xlenbits
  mtval : Xlenbits
  mie : BitVec 1
  mpie : BitVec 1
  mpp : BitVec 2
  mprv : BitVec 1

/-- The trap registers of Machine mode in a state. -/
def State.machineTrap (s : State) : MachineTrap where
  mepc := s.mepc
  mcause := s.mcause
  mtval := s.mtval
  mie := Mstatus.MIE.get s.mstatus
  mpie := Mstatus.MPIE.get s.mstatus
  mpp := Mstatus.MPP.get s.mstatus
  mprv := Mstatus.MPRV.get s.mstatus

/-! ## The bytes that the PMP denies -/

/-- The PMP denies stores to the byte `a` below Machine mode. -/
structure StoreDenied (s : State) (a : ℕ) : Prop where
  inSpace : a < 2 ^ xlen
  denied : ∀ p ≠ .Machine, physAccessCheck s .Write p (BitVec.ofNat xlen a) 1 ≠ .ok none

/-- The denied bytes depend on the PMP registers only. -/
theorem StoreDenied.of_samePmp {s s' : State} {a : ℕ} (h : StoreDenied s a)
    (hsame : SamePmp s s') : StoreDenied s' a := by
  refine ⟨h.inSpace, fun p hp hok => h.denied p hp ?_⟩
  unfold physAccessCheck at hok ⊢
  rwa [pmpCheck_congr hsame] at hok

/-- A segment fits in the address space. -/
theorem width_lt_of_inMem {a : Xlenbits} {n : ℕ} (h : withinPhysMem a n = true) :
    n < 2 ^ xlen := by
  unfold withinPhysMem withinSegment at h
  simp only [Bool.or_eq_true, decide_eq_true_eq] at h
  have hram := platRamSize.isLt
  have hrom := platRomSize.isLt
  omega

/-- What the check admits for an access, it admits for each of its bytes. -/
theorem physAccessCheck_byte {s : State} {a : Xlenbits} {n : ℕ} {p : Privilege}
    (hin : withinPhysMem a n = true) (h : physAccessCheck s .Write p a n = .ok none) {b : ℕ}
    (hb : b < 2 ^ xlen) (hlo : a.toNat ≤ b) (hhi : b < a.toNat + n) :
    physAccessCheck s .Write p (BitVec.ofNat xlen b) 1 = .ok none := by
  unfold physAccessCheck at h ⊢
  split
  · rfl
  · rename_i hcount
    rw [if_neg hcount] at h
    have hbyte : (BitVec.ofNat xlen b).toNat = b := by
      rw [BitVec.toNat_ofNat, Nat.mod_eq_of_lt hb]
    refine pmpCheckFrom_subAccess (width_lt_of_inMem hin) one_pos ?_ .Write p h
    unfold accessBytes
    rw [hbyte]
    exact Set.Ico_subset_Ico hlo (by omega)

/-- A store that the checks admit below Machine mode leaves the denied bytes alone. -/
theorem StoreAllowed.mem_eq {s : State} {a : Xlenbits} {n : ℕ} (h : StoreAllowed s a n)
    (hbelow : s.curPrivilege ≠ .Machine) (hoff : MprvOff s) (v : BitVec (8 * n)) {b : ℕ}
    (hb : StoreDenied s b) : Bytes.write s.mem a.toNat n v b = s.mem b := by
  obtain ⟨p, hp, hcheck⟩ := h.checked
  have hne : p ≠ .Machine := by
    rcases hp with rfl | heff
    · decide
    · rw [hoff.effectivePrivilege hbelow] at heff
      cases heff
      exact hbelow
  unfold Bytes.write
  rw [if_neg]
  rintro ⟨hlo, hhi⟩
  exact hb.denied p hne (physAccessCheck_byte h.inMem hcheck hb.inSpace hlo hhi)

/-! ## Fields of `mstatus` -/

/-- The bits of `mstatus` that change below Machine mode: those of `sstatus`. -/
def supervisorBits : List ℕ := [1, 5, 8, 9, 10, 13, 14, 15, 16, 18, 19, xlen - 1]

omit [Platform] in
/-- A field outside the bits that change. -/
theorem SameOutside.get {w : ℕ} {B : List ℕ} {v v' : BitVec w} (h : SameOutside B v v')
    {f : Field} (hf : ∀ i, f.lsb ≤ i → i < f.lsb + f.width → i ∉ B) : f.get v' = f.get v := by
  apply BitVec.eq_of_getLsbD_eq
  intro i hi
  rw [Field.getLsbD_get, Field.getLsbD_get, h (f.lsb + i) (hf _ (by omega) (by omega))]

theorem sameOutside_vsDirtied (m : Xlenbits) : SameOutside [9, 10, xlen - 1] m (vsDirtied m) := by
  unfold vsDirtied
  refine SameOutside.set ?_ (bit_mem (by simp)) _
  refine (SameOutside.refl _ m).set ?_ _
  intro i hlo hhi
  simp only at hlo hhi
  rcases (by omega : i = 9 ∨ i = 10) with rfl | rfl <;> simp

theorem sameOutside_fsDirtied (m : Xlenbits) :
    SameOutside [13, 14, xlen - 1] m (fsDirtied m) := by
  unfold fsDirtied
  refine SameOutside.set ?_ (bit_mem (by simp)) _
  refine (SameOutside.refl _ m).set ?_ _
  intro i hlo hhi
  simp only at hlo hhi
  rcases (by omega : i = 13 ∨ i = 14) with rfl | rfl <;> simp

/-- A write of `sstatus` changes bits of its own only. -/
theorem sameOutside_legalizeSstatus {s : State} (h : MstatusLegal s) (v : Xlenbits) :
    SameOutside supervisorBits s.mstatus (legalizeSstatus s s.mstatus v) := by
  intro i hi
  by_cases hlt : i < xlen
  · have hbits : i ≠ xlen - 1 ∧ ¬ (13 ≤ i ∧ i < 15) ∧ ¬ SstatusField i := by
      simp only [supervisorBits, List.mem_cons, List.not_mem_nil, or_false, not_or] at hi
      unfold SstatusField
      omega
    rw [getLsbD_legalizeSstatus h v hlt, if_neg hbits.1, if_neg hbits.2.1,
      if_neg (fun hf => hbits.2.2 hf.1)]
  · rw [BitVec.getLsbD_of_ge _ _ (by omega), BitVec.getLsbD_of_ge _ _ (by omega)]

/-- The gates lie apart from the bits that change below Machine mode, and on the entry to it. -/
theorem gates_eq {m m' : Xlenbits}
    (h : SameOutside (17 :: (machineTrapBits ++ supervisorBits)) m m') : gates m' = gates m := by
  have hx := Platform.xlen_eq
  have hget {f : Field} (hf : ∀ i, f.lsb ≤ i → i < f.lsb + f.width → 20 ≤ i ∧ i < xlen - 1) :
      f.get m' = f.get m := by
    refine h.get (fun i hlo hhi hmem => ?_)
    have hrange := hf i hlo hhi
    simp only [machineTrapBits, supervisorBits, List.cons_append, List.nil_append, List.mem_cons,
      List.not_mem_nil, or_false] at hmem
    omega
  have htvm : Mstatus.TVM.get m' = Mstatus.TVM.get m :=
    hget (fun i hlo hhi => by simp only at hlo hhi; omega)
  have htw : Mstatus.TW.get m' = Mstatus.TW.get m :=
    hget (fun i hlo hhi => by simp only at hlo hhi; omega)
  have htsr : Mstatus.TSR.get m' = Mstatus.TSR.get m :=
    hget (fun i hlo hhi => by simp only at hlo hhi; omega)
  have hsxl : getMstatusSXL m' = getMstatusSXL m := by
    unfold getMstatusSXL
    split
    · rfl
    · exact hget (fun i hlo hhi => by simp only at hlo hhi; omega)
  have huxl : getMstatusUXL m' = getMstatusUXL m := by
    unfold getMstatusUXL
    split
    · rfl
    · exact hget (fun i hlo hhi => by simp only at hlo hhi; omega)
  unfold gates
  rw [htvm, htw, htsr, hsxl, huxl]

/-- The fields of `mstatus` among the trap registers lie apart from the bits of `sstatus`. -/
theorem machineTrap_eq {s s' : State} (h : SameOutside supervisorBits s.mstatus s'.mstatus)
    (hepc : s'.mepc = s.mepc) (hcause : s'.mcause = s.mcause) (htval : s'.mtval = s.mtval) :
    s'.machineTrap = s.machineTrap := by
  have hx := xlen_ge
  have hget {f : Field} (hf : ∀ i, f.lsb ≤ i → i < f.lsb + f.width →
      i = 3 ∨ i = 7 ∨ i = 11 ∨ i = 12 ∨ i = 17) : f.get s'.mstatus = f.get s.mstatus := by
    refine h.get (fun i hlo hhi hmem => ?_)
    have hrange := hf i hlo hhi
    simp only [supervisorBits, List.mem_cons, List.not_mem_nil, or_false] at hmem
    omega
  have hmie : Mstatus.MIE.get s'.mstatus = Mstatus.MIE.get s.mstatus :=
    hget (fun i hlo hhi => by simp only at hlo hhi; omega)
  have hmpie : Mstatus.MPIE.get s'.mstatus = Mstatus.MPIE.get s.mstatus :=
    hget (fun i hlo hhi => by simp only at hlo hhi; omega)
  have hmpp : Mstatus.MPP.get s'.mstatus = Mstatus.MPP.get s.mstatus :=
    hget (fun i hlo hhi => by simp only at hlo hhi; omega)
  have hmprv : Mstatus.MPRV.get s'.mstatus = Mstatus.MPRV.get s.mstatus :=
    hget (fun i hlo hhi => by simp only at hlo hhi; omega)
  unfold State.machineTrap
  rw [hepc, hcause, htval, hmie, hmpie, hmpp, hmprv]

/-! ## What a step below Machine mode changes -/

/-- What the operations of a step below Machine mode change. -/
structure Confined (s s' : State) : Prop where
  legal : LegalStep s s'
  mprv : MprvStep s s'
  /-- Only a return from a trap leaves Machine mode. -/
  machine : s.curPrivilege = .Machine → s'.curPrivilege = .Machine
  regs : MstatusLegal s → s'.machineRegs = s.machineRegs
  mstatus : MstatusLegal s → MprvOff s →
    SameOutside (machineTrapBits ++ supervisorBits) s.mstatus s'.mstatus
  trap : MstatusLegal s → MprvOff s → s'.curPrivilege ≠ .Machine →
    s'.machineTrap = s.machineTrap ∧ SameOutside supervisorBits s.mstatus s'.mstatus
  mem : MstatusLegal s → MprvOff s → s'.curPrivilege ≠ .Machine →
    ∀ a, StoreDenied s a → s'.mem a = s.mem a

/-- The registers of Machine mode hold the PMP. -/
theorem samePmp_of_machineRegs {s s' : State} (h : s'.machineRegs = s.machineRegs) :
    SamePmp s s' := ⟨congrArg MachineRegs.pmpcfg h, congrArg MachineRegs.pmpaddr h⟩

instance : Std.Refl Confined := ⟨fun _ => ⟨fun h => h, fun h => h, fun h => h, fun _ => rfl,
  fun _ _ => .refl _ _, fun _ _ _ => ⟨rfl, .refl _ _⟩, fun _ _ _ _ _ => rfl⟩⟩

instance : IsTrans State Confined where
  trans s₁ s₂ s₃ h h' := by
    have hback (hne : s₃.curPrivilege ≠ .Machine) : s₂.curPrivilege ≠ .Machine :=
      fun hm => hne (h'.machine hm)
    refine ⟨fun hl => h'.legal (h.legal hl), fun hm => h'.mprv (h.mprv hm),
      fun hm => h'.machine (h.machine hm), fun hl => ?_, fun hl hoff => ?_, fun hl hoff hne => ?_,
      fun hl hoff hne a ha => ?_⟩
    · rw [h'.regs (h.legal hl), h.regs hl]
    · exact (h.mstatus hl hoff).trans (h'.mstatus (h.legal hl) (h.mprv hoff))
    · obtain ⟨htrap, hbits⟩ := h.trap hl hoff (hback hne)
      obtain ⟨htrap', hbits'⟩ := h'.trap (h.legal hl) (h.mprv hoff) hne
      exact ⟨htrap'.trans htrap, hbits.trans hbits'⟩
    · have ha' : StoreDenied s₂ a := ha.of_samePmp (samePmp_of_machineRegs (h.regs hl))
      rw [h'.mem (h.legal hl) (h.mprv hoff) hne a ha', h.mem hl hoff (hback hne) a ha]

/-- A step that leaves the registers of Machine mode and the memory alone. -/
theorem confined_of_eq {s s' : State} (hlegal : LegalStep s s') (hmprv : MprvStep s s')
    (hpriv : s'.curPrivilege = s.curPrivilege) (hregs : s'.machineRegs = s.machineRegs)
    (hm : s'.mstatus = s.mstatus) (htrap : s'.machineTrap = s.machineTrap)
    (hmem : s'.mem = s.mem) : Confined s s' where
  legal := hlegal
  mprv := hmprv
  machine h := hpriv.trans h
  regs _ := hregs
  mstatus _ _ := hm ▸ .refl _ _
  trap _ _ _ := ⟨htrap, hm ▸ .refl _ _⟩
  mem _ _ _ _ _ := by rw [hmem]

/-- A step that leaves `mstatus` alone, too. -/
theorem confined_of_other {s s' : State} (hmisa : s'.misa = s.misa)
    (hm : s'.mstatus = s.mstatus) (hpriv : s'.curPrivilege = s.curPrivilege)
    (hregs : s'.machineRegs = s.machineRegs) (htrap : s'.machineTrap = s.machineTrap)
    (hmem : s'.mem = s.mem) : Confined s s' :=
  confined_of_eq (legalStep_of_mstatus hmisa (fun hl => hm ▸ hl.mstatus))
    (mprvStep_of_eq (by rw [hm]) hpriv) hpriv hregs hm htrap hmem

/-- A step that changes bits of `sstatus` besides. -/
theorem confined_of_mstatus {s : State} {m : Xlenbits}
    (hlegal : LegalStep s { s with mstatus := m }) (hmprv : MprvStep s { s with mstatus := m })
    (hm : MstatusLegal s → SameOutside supervisorBits s.mstatus m) :
    Confined s { s with mstatus := m } := by
  refine ⟨hlegal, hmprv, fun hs => hs, fun hl => ?_,
    fun hl _ => (hm hl).mono (List.subset_append_right _ _),
    fun hl _ _ => ⟨machineTrap_eq (hm hl) rfl rfl rfl, hm hl⟩, fun _ _ _ _ _ => rfl⟩
  have hgates : gates m = gates s.mstatus :=
    gates_eq ((hm hl).mono (fun i hi => by simp [hi]))
  unfold State.machineRegs
  dsimp only
  rw [hgates]

/-- The entry to a trap. -/
theorem confined_trapEntry {intr : Bool} {c : BitVec 8} {info : Option Xlenbits} {s s' : State}
    {p : Privilege} (h : TrapEntry intr c info s p s') : Confined s s' := by
  have hlegal : LegalStep s s' := InstRel.trap h
  have hmprv : MprvStep s s' := InstRel.trap h
  rcases h with _ | ⟨-, hpriv, -⟩
  · refine ⟨hlegal, hmprv, fun _ => rfl, fun _ => ?_,
      fun _ _ => (sameOutside_mstatusTrapM _ _).mono (List.subset_append_left _ _),
      fun _ _ hne => absurd rfl hne, fun _ _ hne => absurd rfl hne⟩
    have hgates : gates (mstatusTrapM s.mstatus s.curPrivilege) = gates s.mstatus :=
      gates_eq ((sameOutside_mstatusTrapM _ _).mono (fun i hi => by simp [hi]))
    unfold trapStateM State.machineRegs
    dsimp only
    rw [hgates]
  · have hsup : SameOutside supervisorBits s.mstatus
        (mstatusTrapS s.mstatus (if s.curPrivilege = .User then 0#1 else 1#1)) :=
      (sameOutside_mstatusTrapS _ _).mono (by simp [supervisorTrapBits, supervisorBits])
    refine ⟨hlegal, hmprv, fun hs => absurd hs hpriv, fun _ => ?_,
      fun _ _ => hsup.mono (List.subset_append_right _ _),
      fun _ _ _ => ⟨machineTrap_eq hsup rfl rfl rfl, hsup⟩, fun _ _ _ _ _ => rfl⟩
    have hgates : gates (mstatusTrapS s.mstatus
        (if s.curPrivilege = .User then 0#1 else 1#1)) = gates s.mstatus :=
      gates_eq (hsup.mono (fun i hi => by simp [hi]))
    unfold trapStateS State.machineRegs
    dsimp only
    rw [hgates]

instance : TurnRel Confined where
  devices s d := confined_of_eq (DeviceClosed.devices s d) (DeviceClosed.devices s d) rfl rfl rfl rfl rfl
  store s a n v h := ⟨BusClosed.store s a n v h, BusClosed.store s a n v h, fun hm => hm,
    fun _ => rfl, fun _ _ => .refl _ _, fun _ _ _ => ⟨rfl, .refl _ _⟩,
    fun _ hoff hne _ hb => h.mem_eq hne hoff v hb⟩
  tlb s t ht := confined_of_eq (TlbClosed.tlb s t ht) (TlbClosed.tlb s t ht) rfl rfl rfl rfl rfl
  x s v := confined_of_eq (CoreRel.x s v) (CoreRel.x s v) rfl rfl rfl rfl rfl
  jump s n h := confined_of_eq (CoreRel.jump s n h) (CoreRel.jump s n h) rfl rfl rfl rfl rfl
  trap h := confined_trapEntry h
  vec s p := confined_of_eq (InstRel.vec s p) (InstRel.vec s p) rfl rfl rfl rfl rfl
  dirtyV s := confined_of_mstatus (InstRel.dirtyV s) (InstRel.dirtyV s)
    (fun _ => (sameOutside_vsDirtied _).mono (by simp [supervisorBits]))
  fp s f c := confined_of_eq (InstRel.fp s f c) (InstRel.fp s f c) rfl rfl rfl rfl rfl
  dirtyFd hf s := confined_of_mstatus (InstRel.dirtyFd hf s) (InstRel.dirtyFd hf s)
    (fun _ => (sameOutside_fsDirtied _).mono (by simp [supervisorBits]))
  after s n := confined_of_eq (StepRel.after s n) (StepRel.after s n) rfl rfl rfl rfl rfl
  bits s w := confined_of_eq (StepRel.bits s w) (StepRel.bits s w) rfl rfl rfl rfl rfl
  trace s t := confined_of_eq (TraceClosed.trace s t) (TraceClosed.trace s t) rfl rfl rfl rfl rfl
  reservation s a v := confined_of_eq (ReservationClosed.reservation s a v)
    (ReservationClosed.reservation s a v) rfl rfl rfl rfl rfl
  clock s c := confined_of_eq (ClockClosed.clock s c) (ClockClosed.clock s c) rfl rfl rfl rfl rfl
  entropy _ _ := confined_of_other rfl rfl rfl rfl rfl rfl
  begin _ := confined_of_other rfl rfl rfl rfl rfl rfl
  endStep _ _ := confined_of_other rfl rfl rfl rfl rfl rfl

/-! ## Instructions below Machine mode -/

/-- A write of `sie` leaves the interrupts alone that are not delegated. -/
theorem mie_legalizeSie (o d v : Xlenbits) : legalizeSie o d v &&& ~~~d = o &&& ~~~d := by
  apply BitVec.eq_of_getLsbD_eq
  intro i hi
  rw [BitVec.getLsbD_and, BitVec.getLsbD_and, BitVec.getLsbD_not]
  cases hd : d.getLsbD i with
  | true => simp
  | false =>
      have hbit (k : ℕ) (m : Xlenbits) (hm : m.getLsbD i = o.getLsbD i) :
          (Field.set ⟨k, 1⟩ m (if Field.get ⟨k, 1⟩ d = 1#_ then Field.get ⟨k, 1⟩ v
            else Field.get ⟨k, 1⟩ o)).getLsbD i = o.getLsbD i := by
        rw [Field.getLsbD_set]
        split
        · rename_i hin
          obtain rfl : i = k := by
            simp only at hin
            omega
          have hclear : Field.get ⟨i, 1⟩ d ≠ 1#_ := by
            intro h1
            have h0 := congrArg (fun b : BitVec 1 => b.getLsbD 0) h1
            rw [Field.get_bit] at h0
            simp [hd] at h0
          rw [if_neg hclear, Field.getLsbD_get]
          simp
        · exact hm
      unfold legalizeSie
      rw [hbit _ _ (hbit _ _ (hbit _ _ rfl))]

instance : SupervisorCsrs Confined where
  regs _ _ := confined_of_eq (legalStep_of_mstatus rfl MstatusLegal.mstatus)
    (mprvStep_of_eq rfl rfl) rfl rfl rfl rfl rfl
  sstatus s v := confined_of_mstatus
    (legalStep_of_mstatus rfl (fun hl => legalMstatus_legalize hl.user _))
    (fun hoff hne => mprv_legalizeSstatus s _ _ (hoff hne))
    (fun hl => sameOutside_legalizeSstatus hl v)
  sie s v := by
    refine confined_of_eq (legalStep_of_mstatus rfl MstatusLegal.mstatus)
      (mprvStep_of_eq rfl rfl) rfl ?_ rfl rfl rfl
    unfold State.machineRegs
    dsimp only
    rw [mie_legalizeSie]

/-- `SRET` below Machine mode. -/
theorem confined_sret {s : State} (hbelow : s.curPrivilege ≠ .Machine) (n : Xlenbits) :
    Confined s (s.sret n) := by
  have hpriv : sretPrivilege s.mstatus ≠ .Machine := by
    unfold sretPrivilege
    split <;> decide
  have hspp : SameOutside supervisorBits s.mstatus (Mstatus.SPP.set (Mstatus.SPIE.set
      (Mstatus.SIE.set s.mstatus (Mstatus.SPIE.get s.mstatus)) 1#1) 0#1) := by
    refine SameOutside.set ?_ (bit_mem (by simp [supervisorBits])) _
    refine SameOutside.set ?_ (bit_mem (by simp [supervisorBits])) _
    exact (SameOutside.refl _ _).set (bit_mem (by simp [supervisorBits])) _
  have hset : (s.sret n).mstatus = Mstatus.MPRV.set (Mstatus.SPP.set (Mstatus.SPIE.set
      (Mstatus.SIE.set s.mstatus (Mstatus.SPIE.get s.mstatus)) 1#1) 0#1) 0#1 := by
    unfold State.sret mstatusSret
    simp only [ne_eq, hpriv, not_false_eq_true, if_true]
  -- `MPRV` is clear already
  have hbits (hoff : MprvOff s) : SameOutside supervisorBits s.mstatus (s.sret n).mstatus := by
    rw [hset]
    refine SameOutside.drop (k := 17) (SameOutside.set (B := 17 :: supervisorBits) ?_
      (bit_mem (by simp)) _) ?_
    · exact hspp.mono (fun i hi => by simp [hi])
    · refine getLsbD_eq_of_get ?_
      have hclear := hoff hbelow
      exact (mprv_clear _).trans hclear.symm
  refine ⟨RetClosed.sret s n, RetClosed.sret s n, fun hs => absurd hs hbelow, fun _ => ?_,
    fun _ hoff => (hbits hoff).mono (List.subset_append_right _ _),
    fun _ hoff _ => ⟨machineTrap_eq (hbits hoff) rfl rfl rfl, hbits hoff⟩, fun _ _ _ _ _ => rfl⟩
  have hgates : gates (s.sret n).mstatus = gates s.mstatus := by
    rw [hset]
    refine gates_eq (SameOutside.set ?_ (bit_mem (by simp)) _)
    exact hspp.mono (fun i hi => by simp [hi])
  have hrest : (s.sret n).machineRegs
      = { s.machineRegs with gates := gates (s.sret n).mstatus } := rfl
  rw [hrest, hgates]
  rfl

/-! ## Runs below Machine mode -/

section

variable [SoftFloat] {s s' : State}

/-- A stretch of a run in which every turn begins below Machine mode. -/
theorem confined_of_trace {path : List (State × Turn × State)} (h : Trace Turns s path s')
    (hbelow : ∀ x ∈ path, x.1.curPrivilege ≠ .Machine) : Confined s s' := by
  induction h with
  | nil => exact Std.Refl.refl _
  | cons _ hstep ih =>
      exact IsTrans.trans _ _ _ (ih (fun x hx => hbelow x (List.mem_cons_of_mem _ hx)))
        (hstep.rel_below (hbelow _ List.mem_cons_self) (fun _ => inferInstance)
          (fun _ s₁ n hsup => confined_sret (by rw [hsup]; decide) n))

/-- What `confined_of_trace` asks of the first state holds in every reachable state. -/
theorem ready_of_trace {s₀ : State} {entry : Xlenbits} {path : List (State × Turn × State)}
    (hboot : Boots entry s₀) (h : Trace Turns s₀ path s) : MstatusLegal s ∧ MprvOff s := by
  have hlegal := mstatusLegal_of_trace hboot h
  obtain ⟨mem, s₁, hinit, rfl⟩ := hboot
  exact ⟨hlegal, mprvOff_of_trace hinit h⟩

end

/-! ## Runs in User mode -/

/-- The registers that Supervisor mode keeps for itself. -/
structure SupervisorKept where
  stvec : Xlenbits
  sscratch : Xlenbits
  satp : Xlenbits
  senvcfg : Xlenbits
  scounteren : BitVec 32
  mie : Xlenbits
  sum : BitVec 1
  mxr : BitVec 1

/-- The registers that Supervisor mode keeps for itself in a state. -/
def State.supervisorKept (s : State) : SupervisorKept where
  stvec := s.stvec
  sscratch := s.sscratch
  satp := s.satp
  senvcfg := s.senvcfg
  scounteren := s.scounteren
  mie := s.mie
  sum := Mstatus.SUM.get s.mstatus
  mxr := Mstatus.MXR.get s.mstatus

/-- The registers that change when a trap enters Supervisor mode. -/
structure SupervisorTrap where
  sepc : Xlenbits
  scause : Xlenbits
  stval : Xlenbits
  sie : BitVec 1
  spie : BitVec 1
  spp : BitVec 1

/-- The trap registers of Supervisor mode in a state. -/
def State.supervisorTrap (s : State) : SupervisorTrap where
  sepc := s.sepc
  scause := s.scause
  stval := s.stval
  sie := Mstatus.SIE.get s.mstatus
  spie := Mstatus.SPIE.get s.mstatus
  spp := Mstatus.SPP.get s.mstatus

/-- What the operations of a step in User mode change. -/
structure UserConfined (s s' : State) : Prop where
  /-- Only a return from a trap enters User mode. -/
  user : s.curPrivilege ≠ .User → s'.curPrivilege ≠ .User
  kept : s'.supervisorKept = s.supervisorKept
  trap : s'.curPrivilege = .User → s'.supervisorTrap = s.supervisorTrap

instance : Std.Refl UserConfined := ⟨fun _ => ⟨fun h => h, rfl, fun _ => rfl⟩⟩

instance : IsTrans State UserConfined where
  trans s₁ s₂ s₃ h h' := by
    refine ⟨fun hu => h'.user (h.user hu), by rw [h'.kept, h.kept], fun hu => ?_⟩
    have hback : s₂.curPrivilege = .User := by
      by_contra hne
      exact h'.user hne hu
    rw [h'.trap hu, h.trap hback]

/-- A step that leaves the registers of Supervisor mode alone. -/
theorem userConfined_of_eq {s s' : State} (hpriv : s'.curPrivilege = s.curPrivilege)
    (hkept : s'.supervisorKept = s.supervisorKept)
    (htrap : s'.supervisorTrap = s.supervisorTrap) : UserConfined s s' where
  user hu := by rwa [hpriv]
  kept := hkept
  trap _ := htrap

/-- `SUM` and `MXR` lie apart from the bits that change outside writes of `sstatus`. -/
theorem supervisorKept_eq {s s' : State} {B : List ℕ} (h : SameOutside B s.mstatus s'.mstatus)
    (hB : 18 ∉ B ∧ 19 ∉ B) (hrest : s'.supervisorKept = { s.supervisorKept with
      sum := s'.supervisorKept.sum
      mxr := s'.supervisorKept.mxr }) : s'.supervisorKept = s.supervisorKept := by
  have hsum : Mstatus.SUM.get s'.mstatus = Mstatus.SUM.get s.mstatus :=
    h.get (fun i hlo hhi => by
      obtain rfl : i = 18 := by simp only at hlo hhi; omega
      exact hB.1)
  have hmxr : Mstatus.MXR.get s'.mstatus = Mstatus.MXR.get s.mstatus :=
    h.get (fun i hlo hhi => by
      obtain rfl : i = 19 := by simp only at hlo hhi; omega
      exact hB.2)
  rw [hrest]
  unfold State.supervisorKept
  dsimp only
  rw [hsum, hmxr]

/-- A context that becomes dirty is none of Supervisor mode's registers. -/
theorem userConfined_dirty {s : State} {m : Xlenbits} {B : List ℕ}
    (h : SameOutside B s.mstatus m)
    (hB : 1 ∉ B ∧ 5 ∉ B ∧ 8 ∉ B ∧ 18 ∉ B ∧ 19 ∉ B) : UserConfined s { s with mstatus := m } := by
  have hbit {k : ℕ} (hk : k ∉ B) : Field.get ⟨k, 1⟩ m = Field.get ⟨k, 1⟩ s.mstatus :=
    h.get (fun i hlo hhi => by
      obtain rfl : i = k := by simp only at hlo hhi; omega
      exact hk)
  refine userConfined_of_eq rfl (supervisorKept_eq h ⟨hB.2.2.2.1, hB.2.2.2.2⟩ rfl) ?_
  unfold State.supervisorTrap
  dsimp only
  rw [hbit hB.1, hbit hB.2.1, hbit hB.2.2.1]

/-- The entry to a trap. -/
theorem userConfined_trapEntry {intr : Bool} {c : BitVec 8} {info : Option Xlenbits}
    {s s' : State} {p : Privilege} (h : TrapEntry intr c info s p s') : UserConfined s s' := by
  rcases h with _ | _
  · have hm : SameOutside machineTrapBits s.mstatus (mstatusTrapM s.mstatus s.curPrivilege) :=
      sameOutside_mstatusTrapM _ _
    have hne : Privilege.Machine ≠ .User := by decide
    exact ⟨fun _ => hne, supervisorKept_eq hm (by decide) rfl, fun hu => absurd hu hne⟩
  · have hm := sameOutside_mstatusTrapS s.mstatus (if s.curPrivilege = .User then 0#1 else 1#1)
    have hne : Privilege.Supervisor ≠ .User := by decide
    exact ⟨fun _ => hne, supervisorKept_eq hm (by decide) rfl, fun hu => absurd hu hne⟩

instance : TurnRel UserConfined where
  devices _ _ := userConfined_of_eq rfl rfl rfl
  store _ _ _ _ _ := userConfined_of_eq rfl rfl rfl
  tlb _ _ _ := userConfined_of_eq rfl rfl rfl
  x _ _ := userConfined_of_eq rfl rfl rfl
  jump _ _ _ := userConfined_of_eq rfl rfl rfl
  trap h := userConfined_trapEntry h
  vec _ _ := userConfined_of_eq rfl rfl rfl
  dirtyV s := by
    have hx := xlen_ge
    refine userConfined_dirty (sameOutside_vsDirtied s.mstatus) ?_
    simp only [List.mem_cons, List.not_mem_nil, or_false]
    omega
  fp _ _ _ := userConfined_of_eq rfl rfl rfl
  dirtyFd _ s := by
    have hx := xlen_ge
    refine userConfined_dirty (sameOutside_fsDirtied s.mstatus) ?_
    simp only [List.mem_cons, List.not_mem_nil, or_false]
    omega
  after _ _ := userConfined_of_eq rfl rfl rfl
  bits _ _ := userConfined_of_eq rfl rfl rfl
  trace _ _ := userConfined_of_eq rfl rfl rfl
  reservation _ _ _ := userConfined_of_eq rfl rfl rfl
  clock _ _ := userConfined_of_eq rfl rfl rfl
  entropy _ _ := userConfined_of_eq rfl rfl rfl
  begin _ := userConfined_of_eq rfl rfl rfl
  endStep _ _ := userConfined_of_eq rfl rfl rfl

/-! ## Runs -/

section

variable [SoftFloat] {s₀ s₁ s₂ : State} {entry : Xlenbits}
  {path₀ path : List (State × Turn × State)}

/-- A stretch of a run in which every turn begins in User mode. -/
theorem userConfined_of_trace (h : Trace Turns s₁ path s₂)
    (huser : ∀ x ∈ path, x.1.curPrivilege = .User) : UserConfined s₁ s₂ := by
  induction h with
  | nil => exact Std.Refl.refl _
  | @cons path s s' t _ hstep ih =>
      have hu : s.curPrivilege = .User := huser (s, t, s') List.mem_cons_self
      have hne : s.curPrivilege ≠ .Supervisor := by
        rw [hu]
        decide
      refine IsTrans.trans _ _ _ (ih (fun x hx => huser x (List.mem_cons_of_mem _ hx)))
        (hstep.rel_below ?_ (fun hs => absurd hs hne) (fun hs => absurd hs hne))
      rw [hu]
      decide

/-- **The modes below cannot reach the registers of the modes above.**  In every run from
`init_model`, over a stretch in which every turn begins below Machine mode, the registers of
Machine mode keep their values, and `mstatus` does outside the bits of `sstatus` and those that a
trap to Machine mode stacks; unless the stretch ends in Machine mode, these bits and the other trap
registers keep theirs, too.  Over a stretch in User mode the same holds of the registers of
Supervisor mode. -/
theorem confinement (hboot : Boots entry s₀) (h₀ : Trace Turns s₀ path₀ s₁)
    (h : Trace Turns s₁ path s₂) :
    ((∀ x ∈ path, x.1.curPrivilege ≠ .Machine) →
        s₂.machineRegs = s₁.machineRegs
        ∧ SameOutside (machineTrapBits ++ supervisorBits) s₁.mstatus s₂.mstatus
        ∧ (s₂.curPrivilege ≠ .Machine → s₂.machineTrap = s₁.machineTrap
          ∧ SameOutside supervisorBits s₁.mstatus s₂.mstatus))
      ∧ ((∀ x ∈ path, x.1.curPrivilege = .User) →
        s₂.supervisorKept = s₁.supervisorKept
        ∧ (s₂.curPrivilege = .User → s₂.supervisorTrap = s₁.supervisorTrap)) := by
  obtain ⟨hlegal, hoff⟩ := ready_of_trace hboot h₀
  constructor
  · intro hbelow
    have hconf := confined_of_trace h hbelow
    exact ⟨hconf.regs hlegal, hconf.mstatus hlegal hoff, hconf.trap hlegal hoff⟩
  · intro huser
    have hconf := userConfined_of_trace h huser
    exact ⟨hconf.kept, hconf.trap⟩

end

/-- A memory with a delegation of instruction access faults and `mret` where the RAM begins. -/
def delegateMem : ℕ → BitVec 8 :=
  Bytes.write (fun _ => 0#8) 0x80000000 8 (0x30200073#32 ++ 0x30215073#32)

omit [Platform] in
/-- The third step runs in User mode and traps to Supervisor mode, as no entry of the PMP lets
it fetch. -/
theorem confinement_delegate :
    letI := rv64Pmp 16 (by decide)
    letI : SoftFloat := default
    ∃ s₀ path₀ s₁ s₂, Boots 0x80000000#_ s₀ ∧ Trace Turns s₀ path₀ s₁ ∧ path₀.length = 2
      ∧ Turns .step s₁ s₂ ∧ s₁.curPrivilege = .User ∧ s₂.curPrivilege = .Supervisor
      ∧ s₂.machineRegs = s₁.machineRegs ∧ s₂.machineTrap = s₁.machineTrap
      ∧ SameOutside supervisorBits s₁.mstatus s₂.mstatus
      ∧ s₂.supervisorKept = s₁.supervisorKept := by
  let := rv64Pmp 16 (by decide)
  let : SoftFloat := default
  have hall : (runSteps 0x80000000#_ 2).passes (State.zero delegateMem) (fun _ s₁ =>
      s₁.curPrivilege == .User
        && step.passes s₁ (fun _ s₂ => s₂.curPrivilege == .Supervisor)) = true := by
    decide +kernel
  obtain ⟨⟨⟩, s₁, hrun, htest⟩ := Exec.passes_iff.mp hall
  obtain ⟨hu, hstep⟩ := Bool.and_eq_true_iff.mp htest
  replace hu : s₁.curPrivilege = .User := beq_iff_eq.mp hu
  obtain ⟨b, s₂, hstep, hs⟩ := Exec.passes_iff.mp hstep
  replace hs : s₂.curPrivilege = .Supervisor := beq_iff_eq.mp hs
  obtain ⟨s₀, path₀, hboot, htrace, hlen⟩ := exists_trace_of_runSteps hrun
  have hturn : Turns .step s₁ s₂ := ⟨b, hstep⟩
  have hpath : ∀ x ∈ [(s₁, Turn.step, s₂)], x.1.curPrivilege = .User := by
    intro x hx
    rw [List.mem_singleton.mp hx]
    exact hu
  obtain ⟨hmachine, hsup⟩ := confinement hboot htrace (.cons .nil hturn)
  obtain ⟨hregs, -, htrap⟩ := hmachine (fun x hx => by rw [hpath x hx]; decide)
  obtain ⟨htrap, hsame⟩ := htrap (by rw [hs]; decide)
  exact ⟨s₀, path₀, s₁, s₂, hboot, htrace, hlen, hturn, hu, hs, hregs, htrap, hsame,
    (hsup hpath).1⟩

section

variable [SoftFloat] {s₀ s₁ s₂ : State} {entry : Xlenbits}
  {path₀ path : List (State × Turn × State)}

/-- **The PMP protects the memory over whole runs.**  In every run from `init_model`, over a
stretch that stays below Machine mode, a byte that the PMP denies to the stores of User and
Supervisor mode when the stretch begins keeps its value: by whatever address, instruction or
update of a page-table entry the memory is reached, and whatever is written to the CSRs. -/
theorem pmp_integrity (hboot : Boots entry s₀) (h₀ : Trace Turns s₀ path₀ s₁)
    (h : Trace Turns s₁ path s₂) (hbelow : ∀ x ∈ path, x.1.curPrivilege ≠ .Machine)
    (hend : s₂.curPrivilege ≠ .Machine) {a : ℕ} (ha : StoreDenied s₁ a) :
    s₂.mem a = s₁.mem a := by
  obtain ⟨hlegal, hoff⟩ := ready_of_trace hboot h₀
  exact (confined_of_trace h hbelow).mem hlegal hoff hend a ha

end

/-- A byte that both modes below Machine mode are refused. -/
theorem storeDenied_of_refuses {s : State} {a : ℕ} (ha : a < 2 ^ xlen)
    (hU : refusesStore s .User a = true) (hS : refusesStore s .Supervisor a = true) :
    StoreDenied s a := by
  refine ⟨ha, fun p hp => ?_⟩
  cases p with
  | User => exact refusesStore_eq_true.mp hU
  | Supervisor => exact refusesStore_eq_true.mp hS
  | Machine => exact absurd rfl hp

/-- A memory with a program where the RAM begins: it sets the first entry of the PMP to let fetches
and loads pass, delegates the access faults of stores and enters User mode at a store to its own
address. -/
def readOnlyMem : ℕ → BitVec 8 :=
  Bytes.write (fun _ => 0#8) 0x80000000 40
    (0x0010A023#32 ++ 0x30200073#32 ++ 0x34109073#32 ++ 0x01008093#32 ++ 0x00000097#32
      ++ 0x30209073#32 ++ 0x08000093#32 ++ 0x3A06D073#32 ++ 0x3B009073#32 ++ 0xFFF00093#32)

omit [Platform] in
/-- The store in User mode takes an access fault to Supervisor mode, and the byte keeps its value. -/
theorem pmp_integrity_store :
    letI := rv64Pmp 16 (by decide)
    letI : SoftFloat := default
    ∃ s₀ path₀ s₁ s s₂, Boots 0x80000000#_ s₀ ∧ Trace Turns s₀ path₀ s₁ ∧ path₀.length = 9
      ∧ s₁.curPrivilege = .User ∧ Executes s₁ (.BASE (.STORE 0#12 1#5 1#5 .WORD false false)) s
      ∧ Turns .step s₁ s₂ ∧ s₂.curPrivilege = .Supervisor ∧ s₂.scause = 7#_
      ∧ s₂.stval = 0x80000024#_ ∧ s₂.mem 0x80000024 = s₁.mem 0x80000024 := by
  let := rv64Pmp 16 (by decide)
  let : SoftFloat := default
  have hall : (runSteps 0x80000000#_ 9).passes (State.zero readOnlyMem) (fun _ s₁ =>
      s₁.executes 0x0010A023#32 (.BASE (.STORE 0#12 1#5 1#5 .WORD false false)) (fun _ => true)
        && (s₁.curPrivilege == .User && refusesStore s₁ .User 0x80000024
          && refusesStore s₁ .Supervisor 0x80000024
          && step.passes s₁ (fun _ s₂ => s₂.curPrivilege == .Supervisor && s₂.scause == 7#_
            && s₂.stval == 0x80000024#_))) = true := by
    decide +kernel
  obtain ⟨⟨⟩, s₁, hrun, htest⟩ := Exec.passes_iff.mp hall
  obtain ⟨hexec, htest⟩ := Bool.and_eq_true_iff.mp htest
  obtain ⟨s, hi, -⟩ := exists_executes hexec
  simp only [Bool.and_eq_true, beq_iff_eq] at htest
  obtain ⟨⟨⟨hu, hdenyU⟩, hdenyS⟩, hstep⟩ := htest
  obtain ⟨b, s₂, hstep, htrap⟩ := Exec.passes_iff.mp hstep
  simp only [Bool.and_eq_true, beq_iff_eq] at htrap
  obtain ⟨⟨hs, hcause⟩, htval⟩ := htrap
  obtain ⟨s₀, path₀, hboot, htrace, hlen⟩ := exists_trace_of_runSteps hrun
  have hturn : Turns .step s₁ s₂ := ⟨b, hstep⟩
  have hdenied := storeDenied_of_refuses (by decide) hdenyU hdenyS
  have hbelow : ∀ x ∈ [(s₁, Turn.step, s₂)], x.1.curPrivilege ≠ .Machine := by
    intro x hx
    rw [List.mem_singleton.mp hx, hu]
    decide
  have hmem := pmp_integrity hboot htrace (.cons .nil hturn) hbelow (by rw [hs]; decide) hdenied
  exact ⟨s₀, path₀, s₁, s, s₂, hboot, htrace, hlen, hu, hi, hturn, hs, hcause, htval, hmem⟩

/-- `vs8r.v v0, (x1)` in User mode, with a `vstart` that is reserved for elements of 64 bits. -/
def lastElement : State :=
  { State.zero (fun _ => 0#8) with
    misa := BitVec.allOnes _
    mstatus := 0x600#_
    vtype := 0b011000#_
    vstart := 511#16
    x := fun _ => 0x80000000#_
    v := fun _ => BitVec.allOnes _ }

omit [Platform] in
/-- The stretch has to stay below Machine mode to the end: `get_start_element` takes the exception
and does not return, so that the store that follows is made in Machine mode. -/
theorem stored_after_trap :
    letI := rv64Pmp 16 (by decide)
    ∃ s' : State, StoreDenied lastElement 0x800001FF
      ∧ (VextMemInst.VSRETYPE 7#3 1#5 0#5).execute.run lastElement = .ok (.RETIRE_SUCCESS, s')
      ∧ s'.curPrivilege = .Machine ∧ s'.mem 0x800001FF ≠ lastElement.mem 0x800001FF := by
  let := rv64Pmp 16 (by decide)
  obtain ⟨r, s', hrun, htest⟩ := Exec.passes_iff.mp
    (by decide +kernel : (VextMemInst.VSRETYPE 7#3 1#5 0#5).execute.passes lastElement
      (fun r s' => r == .RETIRE_SUCCESS
        && (s'.curPrivilege == .Machine && s'.mem 0x800001FF == 0xFF#8)) = true)
  rw [Bool.and_eq_true, Bool.and_eq_true, beq_iff_eq, beq_iff_eq, beq_iff_eq] at htest
  obtain ⟨rfl, hm, hmem⟩ := htest
  refine ⟨s', storeDenied_of_refuses (by decide) (by decide +kernel) (by decide +kernel), hrun,
    hm, ?_⟩
  rw [hmem]
  decide

end SailRiscv
