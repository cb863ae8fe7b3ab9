/-
# The alignment of the program counter

The program counter is even in every reachable state, and a multiple of four while the C extension
is off.  What carries this from step to step is the alignment of `nextPC` for the current `misa`,
and that the program counter and the stored return addresses are even.
-/
import SailRiscv.TrapReturn
import SailRiscv.Lib.Returns

namespace SailRiscv

open Bits Platform

variable [Platform]

/-! ## Aligned addresses -/

/-- An address at which an instruction may begin, for this value of `misa`. -/
def AlignedAt (misa x : Xlenbits) : Prop :=
  x.getLsbD 0 = false ∧ (Misa.C.get misa ≠ 1#1 → x.getLsbD 1 = false)

theorem extensionEnabled_Zca {s : State} :
    extensionEnabled s .Zca = true ↔ Misa.C.get s.misa = 1#1 := by
  unfold extensionEnabled
  rw [beq_iff_eq]

/-- Adding an even number, and one with the lowest two bits clear. -/
theorem getLsbD_add_low (x : Xlenbits) {y : Xlenbits} (h0 : y.getLsbD 0 = false) :
    (x + y).getLsbD 0 = x.getLsbD 0
      ∧ (y.getLsbD 1 = false → (x + y).getLsbD 1 = x.getLsbD 1) := by
  have hx := xlen_ge
  constructor
  · rw [BitVec.getLsbD_add (by omega), h0, BitVec.carry_zero]
    simp
  · intro h1
    rw [BitVec.getLsbD_add (by omega), h1, BitVec.carry_succ, h0, BitVec.carry_zero]
    simp [Bool.atLeastTwo]

/-- The next instruction after one of four bytes. -/
theorem AlignedAt.add_four {misa pc : Xlenbits} (h : AlignedAt misa pc) :
    AlignedAt misa (pc + 4#_) := by
  have hx := xlen_ge
  have h0 : (4#_ : Xlenbits).getLsbD 0 = false := by
    rw [BitVec.getLsbD_ofNat]
    simp
  have h1 : (4#_ : Xlenbits).getLsbD 1 = false := by
    rw [BitVec.getLsbD_ofNat]
    simp [Nat.testBit]
  have hadd := getLsbD_add_low pc h0
  exact ⟨hadd.1.trans h.1, fun hC => (hadd.2 h1).trans (h.2 hC)⟩

/-- The next instruction after a compressed one. -/
theorem AlignedAt.add_two {misa pc : Xlenbits} (h : AlignedAt misa pc)
    (hC : Misa.C.get misa = 1#1) : AlignedAt misa (pc + 2#_) := by
  have h0 : (2#_ : Xlenbits).getLsbD 0 = false := by
    rw [BitVec.getLsbD_ofNat]
    simp
  exact ⟨(getLsbD_add_low pc h0).1.trans h.1, fun hne => absurd hC hne⟩

/-- Trap vectors are multiples of four. -/
theorem alignedAt_tvecAddr (misa : Xlenbits) {m c target : Xlenbits}
    (h : tvecAddr m c = some target) : AlignedAt misa target := by
  have hx := xlen_ge
  have hbase (i : ℕ) (hi : i < 2) : (m &&& ~~~3#_).getLsbD i = false := by
    rw [BitVec.getLsbD_and, BitVec.getLsbD_not, BitVec.getLsbD_ofNat]
    interval_cases i <;> simp [Nat.testBit, show (1 : ℕ) < xlen by omega, show 0 < xlen by omega]
  have hoff (x : Xlenbits) (i : ℕ) (hi : i < 2) : (x <<< 2).getLsbD i = false := by
    rw [BitVec.getLsbD_shiftLeft]
    simp [hi]
  have hsum (x : Xlenbits) : AlignedAt misa ((m &&& ~~~3#_) + x <<< 2) := by
    have hadd := getLsbD_add_low (m &&& ~~~3#_) (hoff x 0 (by omega))
    exact ⟨hadd.1.trans (hbase 0 (by omega)),
      fun _ => (hadd.2 (hoff x 1 (by omega))).trans (hbase 1 (by omega))⟩
  have hdirect : AlignedAt misa (m &&& ~~~3#_) :=
    ⟨hbase 0 (by omega), fun _ => hbase 1 (by omega)⟩
  unfold tvecAddr at h
  simp only at h
  split at h
  · cases h
    exact hdirect
  · split_ifs at h <;> cases h
    · exact hsum _
    · exact hdirect
  · cases h

/-- The mask of a return clears the bits that have to be clear. -/
theorem alignedAt_masked {s : State} {x : Xlenbits} (h : x.getLsbD 0 = false) :
    AlignedAt s.misa (x &&& pcAlignmentMask s) := by
  have hx := xlen_ge
  constructor
  · rw [BitVec.getLsbD_and, h, Bool.false_and]
  · intro hC
    unfold pcAlignmentMask
    rw [if_neg hC, BitVec.getLsbD_and, BitVec.getLsbD_not, BitVec.getLsbD_ofNat]
    simp [Nat.testBit, show (1 : ℕ) < xlen by omega]

/-- `legalize_xepc` clears the lowest bit. -/
theorem getLsbD_legalizeXepc (s : State) (v : Xlenbits) :
    (legalizeXepc s v).getLsbD 0 = false := by
  have hx := xlen_ge
  unfold legalizeXepc
  split_ifs <;> rw [BitVec.getLsbD_and, BitVec.getLsbD_not, BitVec.getLsbD_ofNat] <;>
    simp [Nat.testBit, show 0 < xlen by omega]

/-! ## What an instruction preserves -/

/-- The address that follows is aligned, and what it may be taken from is even. -/
structure NextAligned (s : State) : Prop where
  pc : s.pc.getLsbD 0 = false
  nextPC : AlignedAt s.misa s.nextPC
  mepc : s.mepc.getLsbD 0 = false
  sepc : s.sepc.getLsbD 0 = false

/-- The step keeps the next address aligned. -/
def AlignStep (s s' : State) : Prop := NextAligned s → NextAligned s'

instance : Std.Refl AlignStep := ⟨fun _ h => h⟩

instance : IsTrans State AlignStep := ⟨fun _ _ _ h h' hs => h' (h hs)⟩

/-- A step that leaves these registers alone. -/
theorem alignStep_of_eq {s s' : State} (hpc : s'.pc = s.pc) (hnext : s'.nextPC = s.nextPC)
    (hmisa : s'.misa = s.misa) (hmepc : s'.mepc = s.mepc) (hsepc : s'.sepc = s.sepc) :
    AlignStep s s' := by
  intro h
  constructor
  · rw [hpc]
    exact h.pc
  · rw [hmisa, hnext]
    exact h.nextPC
  · rw [hmepc]
    exact h.mepc
  · rw [hsepc]
    exact h.sepc

/-- A jump to an aligned address. -/
theorem NextAligned.jump {s : State} (h : NextAligned s) {n : Xlenbits} (hn : AlignedAt s.misa n) :
    NextAligned { s with nextPC := n } := ⟨h.pc, hn, h.mepc, h.sepc⟩

instance : InstRel AlignStep where
  devices _ _ := alignStep_of_eq rfl rfl rfl rfl rfl
  store _ _ _ _ _ := alignStep_of_eq rfl rfl rfl rfl rfl
  tlb _ _ _ := alignStep_of_eq rfl rfl rfl rfl rfl
  x _ _ := alignStep_of_eq rfl rfl rfl rfl rfl
  jump s n htarget := by
    intro h
    refine h.jump ⟨htarget.1 h.pc, fun hC => ?_⟩
    exact htarget.2.resolve_left (fun hZca => hC (extensionEnabled_Zca.mp hZca))
  trap htrap := by
    intro h
    rcases htrap with htarget | ⟨-, -, htarget⟩
    · exact ⟨h.pc, alignedAt_tvecAddr _ htarget, h.pc, h.sepc⟩
    · exact ⟨h.pc, alignedAt_tvecAddr _ htarget, h.mepc, h.pc⟩
  vec _ _ := alignStep_of_eq rfl rfl rfl rfl rfl
  dirtyV _ := alignStep_of_eq rfl rfl rfl rfl rfl
  fp _ _ _ := alignStep_of_eq rfl rfl rfl rfl rfl
  dirtyFd _ _ := alignStep_of_eq rfl rfl rfl rfl rfl

instance : TraceClosed AlignStep := ⟨fun _ _ => alignStep_of_eq rfl rfl rfl rfl rfl⟩

instance : ReservationClosed AlignStep := ⟨fun _ _ _ => alignStep_of_eq rfl rfl rfl rfl rfl⟩

instance : ClockClosed AlignStep := ⟨fun _ _ => alignStep_of_eq rfl rfl rfl rfl rfl⟩

/-- The returns from traps mask the address with the current `misa`. -/
instance : RetKeeps AlignStep where
  mret := by
    refine ⟨fun {s r s'} hr h => ?_⟩
    unfold xret exceptionHandler at hr
    rw [Exec.run_bind_of_ok (Exec.run_reads _ _), Exec.run_bind_of_ok (Exec.run_reads _ _)] at hr
    obtain ⟨target, s₁, hexc, hset⟩ := Exec.run_bind_ok.mp hr
    obtain ⟨prev, s₂, hprev, hupd⟩ := Exec.run_bind_ok.mp hexc
    obtain ⟨-, rfl⟩ := Exec.run_checks_ok.mp hprev
    cases hupd
    cases hset
    exact ⟨h.pc, alignedAt_masked h.mepc, h.mepc, h.sepc⟩
  sret := by
    refine ⟨fun {s r s'} hr h => ?_⟩
    unfold xret exceptionHandler at hr
    rw [Exec.run_bind_of_ok (Exec.run_reads _ _), Exec.run_bind_of_ok (Exec.run_reads _ _)] at hr
    obtain ⟨target, s₁, hexc, hset⟩ := Exec.run_bind_ok.mp hr
    cases hexc
    cases hset
    exact ⟨h.pc, alignedAt_masked h.sepc, h.mepc, h.sepc⟩

/-- A write of `misa` does not turn compressed instructions off when the next address needs them. -/
theorem alignedAt_legalizeMisa {s : State} (h : AlignedAt s.misa s.nextPC) (v : Xlenbits) :
    AlignedAt (legalizeMisa s s.misa v) s.nextPC := by
  have hx := xlen_ge
  refine ⟨h.1, fun hC => ?_⟩
  unfold legalizeMisa at hC
  by_cases hveto : (!sysEnableWritableMisa || (Misa.C.get v == 0#1 && s.nextPC.getLsbD 1)) = true
  · rw [if_pos hveto] at hC
    exact h.2 hC
  · by_cases hv : Misa.C.get v = 1#1
    · refine h.2 (fun hm => hC ?_)
      have hwritten : Misa.C.get (if !sysEnableRvc then s.misa
          else Misa.C.set s.misa (Misa.C.get v)) = 1#1 := by
        split_ifs
        · exact hm
        · rw [Field.get_set (by show 2 + 1 ≤ xlen; omega), hv]
      rw [if_neg hveto]
      dsimp only
      split_ifs at hwritten ⊢
      · exact hwritten
      · exact hwritten
      · rw [Field.get_set_of_apart (by decide), Field.get_set_of_apart (by decide)]
        exact hwritten
      · rw [Field.get_set_of_apart (by decide), Field.get_set_of_apart (by decide)]
        exact hwritten
    · have hzero : Misa.C.get v = 0#1 := by
        generalize Misa.C.get v = c at hv
        revert hv
        revert c
        decide
      rw [hzero] at hveto
      simp only [Bool.not_eq_true, Bool.or_eq_false_iff, beq_self_eq_true, Bool.true_and] at hveto
      exact hveto.2

theorem alignStep_of_written {csr : BitVec 12} {value : Xlenbits} {s s' : State}
    (hw : CsrWritten csr value s s') : AlignStep s s' := by
  intro h
  constructor
  · rw [hw.pc]
    exact h.pc
  · rw [hw.nextPC, hw.misa]
    split_ifs
    · exact alignedAt_legalizeMisa h.nextPC value
    · exact h.nextPC
  · rw [hw.mepc]
    split_ifs
    · exact getLsbD_legalizeXepc s value
    · exact h.mepc
  · rw [hw.sepc]
    split_ifs
    · exact getLsbD_legalizeXepc s value
    · exact h.sepc

instance keeps_align_zicsr (i : ZicsrInst) : Exec.Keeps AlignStep i.execute :=
  keeps_zicsr (keeps_readCSR_of (R := AlignStep)
      (fun _ => alignStep_of_eq rfl rfl rfl rfl rfl) i.csr)
    (fun v => ⟨fun h => alignStep_of_written ((csrWritten_writeCSR i.csr v).rel h)⟩)

/-! ## Steps -/

/-- The step keeps the program counter aligned. -/
def PcStep (s s' : State) : Prop := PcAligned s → PcAligned s'

instance : Std.Refl PcStep := ⟨fun _ h => h⟩

instance : IsTrans State PcStep := ⟨fun _ _ _ h h' hs => h' (h hs)⟩

/-- A step that leaves the program counter and `misa` alone. -/
theorem pcStep_of_eq {s s' : State} (hpc : s'.pc = s.pc) (hmisa : s'.misa = s.misa) :
    PcStep s s' := by
  intro h
  unfold PcAligned
  rw [hpc, hmisa]
  exact h

instance : InstRel PcStep where
  devices _ _ := pcStep_of_eq rfl rfl
  store _ _ _ _ _ := pcStep_of_eq rfl rfl
  tlb _ _ _ := pcStep_of_eq rfl rfl
  x _ _ := pcStep_of_eq rfl rfl
  jump _ _ _ := pcStep_of_eq rfl rfl
  trap h := pcStep_of_eq (by rcases h with _ | _ <;> rfl) (by rcases h with _ | _ <;> rfl)
  vec _ _ := pcStep_of_eq rfl rfl
  dirtyV _ := pcStep_of_eq rfl rfl
  fp _ _ _ := pcStep_of_eq rfl rfl
  dirtyFd _ _ := pcStep_of_eq rfl rfl

instance : TraceClosed PcStep := ⟨fun _ _ => pcStep_of_eq rfl rfl⟩

/-- The program counter and the next address are aligned. -/
def StepAligned (s : State) : Prop := PcAligned s ∧ NextAligned s

section

variable [SoftFloat] {s s' : State}

omit [SoftFloat] in
theorem NextAligned.begin (h : NextAligned s) : NextAligned s.begin :=
  ⟨h.pc, h.nextPC, h.mepc, h.sepc⟩

omit [SoftFloat] in
theorem NextAligned.withBits (h : NextAligned s) (w : Xlenbits) : NextAligned (s.withBits w) :=
  ⟨h.pc, h.nextPC, h.mepc, h.sepc⟩

omit [SoftFloat] in
theorem NextAligned.after (h : NextAligned s) {n : Xlenbits} (hn : AlignedAt s.misa (s.pc + n)) :
    NextAligned (s.after n) := ⟨h.pc, hn, h.mepc, h.sepc⟩

omit [SoftFloat] in
/-- An instruction starts with an aligned next address. -/
theorem Executes.nextAligned {i : Ast} (h : Executes s i s') (hs : StepAligned s) :
    NextAligned s' := by
  have hbegin : NextAligned s.begin := hs.2.begin
  rcases h with @⟨w, s₁, -, hfetch, hc⟩ | @⟨w, s₁, -, hfetch⟩
  · have hpc : PcAligned s₁ := (keeps_step_fetch (R := PcStep)).rel hfetch hs.1
    have hnext : NextAligned s₁ := (keeps_step_fetch (R := AlignStep)).rel hfetch hbegin
    exact (hnext.withBits _).after (AlignedAt.add_two hpc (extensionEnabled_Zca.mp hc))
  · have hpc : PcAligned s₁ := (keeps_step_fetch (R := PcStep)).rel hfetch hs.1
    have hnext : NextAligned s₁ := (keeps_step_fetch (R := AlignStep)).rel hfetch hbegin
    exact (hnext.withBits _).after (AlignedAt.add_four hpc)

/-- Before the program counter is updated, the next address is aligned. -/
theorem Outcome.nextAligned {r : Retired} (h : Outcome s r s') (hs : StepAligned s) :
    NextAligned s' := by
  have hbegin : NextAligned s.begin := hs.2.begin
  rcases h with @⟨_, _, _, _, htrap⟩ | @⟨_, _, _, _, _, hfetch, htrap⟩
    | @⟨_, s₁, _, _, hfetch, _, htrap⟩ | @⟨i, _, s₁, _, hi, hrun⟩
  · exact InstRel.trap (R := AlignStep) htrap hbegin
  · exact (keeps_step_handleSync (R := AlignStep) _).rel htrap
      ((keeps_step_fetch (R := AlignStep)).rel hfetch hbegin)
  · have hnext : NextAligned s₁ := (keeps_step_fetch (R := AlignStep)).rel hfetch hbegin
    exact (keeps_step_handleIllegal (R := AlignStep)).rel htrap (hnext.withBits _)
  · have hkeeps : Exec.Keeps AlignStep i.execute :=
      Ast.keeps_of (fun _ => inferInstance) (fun _ => inferInstance) hi.evenOffset
        (fun _ => inferInstance) (fun _ => inferInstance) (fun z _ => keeps_align_zicsr z)
    exact hkeeps.rel hrun (hi.nextAligned hs)

/-- **Every turn of the loop keeps the program counter aligned.** -/
theorem Turns.stepAligned {t : Turn} (h : Turns t s s') (hs : StepAligned s) : StepAligned s' := by
  cases t with
  | tick =>
      have (R : State → State → Prop) [InstRel R] : Exec.Keeps R tickPlatform :=
        keeps_devices (fun _ => rfl)
      have hclock : Exec.Keeps AlignStep (do tickClock; tickPlatform : M Unit) := inferInstance
      have : ClockClosed PcStep := ⟨fun _ _ => pcStep_of_eq rfl rfl⟩
      have hpc : Exec.Keeps PcStep (do tickClock; tickPlatform : M Unit) := inferInstance
      exact ⟨hpc.rel h hs.1, hclock.rel h hs.2⟩
  | step =>
      obtain ⟨stepped, hstep⟩ := h
      obtain ⟨r, s₂, hout, rfl⟩ := step_cases hstep
      have hnext := hout.nextAligned hs
      exact ⟨hnext.nextPC, hnext.nextPC.1, hnext.nextPC, hnext.mepc, hnext.sepc⟩

end

/-! ## Fetches -/

/-- A fault other than that of a misaligned fetch. -/
def OtherFault (e : ExceptionType) : Prop := e ≠ .E_Fetch_Addr_Align

instance (e : ExceptionType) : Decidable (OtherFault e) :=
  inferInstanceAs (Decidable (e ≠ .E_Fetch_Addr_Align))

omit [Platform] in
theorem otherFault_translation (t : AccessType) (f : PTWError) :
    OtherFault (translationException t f) := by
  cases t <;> cases f <;> decide

omit [Platform] in
theorem otherFault_access (t : AccessType) : OtherFault (accessToFault t) := by
  cases t <;> decide

omit [Platform] in
theorem otherFault_device (t : AccessType) : OtherFault (deviceFault t) := by
  cases t <;> decide

/-- The PMP denies an access with the fault of its type. -/
theorem fault_pmpCheckFrom {s : State} {addr width : Xlenbits} {acc : AccessType}
    {priv : Privilege} {e : ExceptionType} {is : List (Fin 64)}
    (h : pmpCheckFrom s addr width acc priv is = .ok (some e)) : e = accessToFault acc := by
  induction is with
  | nil =>
      rw [pmpCheckFrom] at h
      split_ifs at h <;> cases h
      rfl
  | cons i is ih =>
      rw [pmpCheckFrom] at h
      cases hm : pmpMatchEntry addr width acc priv (s.pmpcfg i) (pmpReadAddrReg s i)
        (prevPmpaddr s i) with
      | error e' =>
          rw [hm] at h
          cases h
      | ok m =>
          rw [hm] at h
          cases m
          · cases h
          · exact ih h
          · cases h
            rfl

theorem fault_clintLoad {s : State} {t : AccessType} {pa : Xlenbits} {n : ℕ} {e : ExceptionType}
    (h : clintLoad s t pa n = .MemException e) : e = deviceFault t := by
  unfold clintLoad at h
  dsimp only at h
  split_ifs at h
  injection h with h
  exact h.symm

theorem fault_htifLoad {s : State} {t : AccessType} {pa : Xlenbits} {n : ℕ} {e : ExceptionType}
    (h : htifLoad s t pa n = .MemException e) : e = deviceFault t := by
  unfold htifLoad at h
  split_ifs at h
  injection h with h
  exact h.symm

/-- A device faults with the fault of the access. -/
theorem fault_mmioRead {s : State} {t : AccessType} {pa : Xlenbits} {n : ℕ} {e : ExceptionType}
    (h : mmioRead s t pa n = .MemException e) : e = deviceFault t := by
  unfold mmioRead at h
  split_ifs at h
  · exact fault_clintLoad h
  · exact fault_htifLoad h
  · injection h with h
    exact h.symm

/-- A read without flags faults with another fault. -/
theorem fault_memReadPriv {s : State} {t : AccessType} {priv : Privilege} {pa : Xlenbits} {n : ℕ}
    {e : ExceptionType}
    (h : memReadPriv s t priv pa n false false false = .ok (.MemException e)) : OtherFault e := by
  unfold memReadPriv checkedMemRead at h
  rw [if_neg (by simp), if_neg (by simp)] at h
  cases hc : physAccessCheck s t priv pa n with
  | error e' =>
      rw [hc] at h
      cases h
  | ok c =>
      rw [hc] at h
      cases c with
      | some e' =>
          cases h
          unfold physAccessCheck pmpCheck at hc
          split_ifs at hc
          · cases hc
          · rw [fault_pmpCheckFrom hc]
            exact otherFault_access t
      | none =>
          injection h with h
          split_ifs at h
          · rw [fault_mmioRead h]
            exact otherFault_device t
          · cases h
          · cases h
            exact otherFault_device t

/-- The translation of an address fails with another fault. -/
theorem returns_translateAddr (va : Xlenbits) (t : AccessType) :
    Exec.Returns (fun r => ∀ e, r = .TR_Failure e → OtherFault e) (translateAddr va t) := by
  have hother (f : PTWError) : Exec.Returns
      (fun r : TRResult Xlenbits ExceptionType => ∀ e, r = .TR_Failure e → OtherFault e)
      (pure (.TR_Failure (translationException t f)) : M (TRResult Xlenbits ExceptionType)) := by
    refine Exec.returns_pure (fun e he => ?_)
    cases he
    exact otherFault_translation t f
  have haddress (pa : Xlenbits) : Exec.Returns
      (fun r : TRResult Xlenbits ExceptionType => ∀ e, r = .TR_Failure e → OtherFault e)
      (pure (.TR_Address pa) : M (TRResult Xlenbits ExceptionType)) :=
    Exec.returns_pure (fun e he => by cases he)
  unfold translateAddr
  refine @Exec.returns_bind _ _ _ _ _ _ _ (fun priv => ?_)
  refine @Exec.returns_bind _ _ _ _ _ _ _ (fun mode => ?_)
  split
  · exact haddress va
  · split_ifs
    · exact hother _
    · refine @Exec.returns_bind _ _ _ _ _ _ _ (fun s => ?_)
      refine @Exec.returns_bind _ _ _ _ _ _ _ (fun r => ?_)
      cases r
      · exact haddress _
      · exact hother _

/-- A read of memory fails with another fault. -/
theorem returns_memRead (t : AccessType) (pa : Xlenbits) (n : ℕ) :
    Exec.Returns (fun r => ∀ e, r = .MemException e → OtherFault e)
      (memRead t pa n false false false) where
  holds {s r s'} hrun := by
    obtain ⟨hread, rfl⟩ := Exec.run_checks_ok.mp hrun
    rintro e rfl
    cases hp : effectivePrivilege t s'.mstatus s'.curPrivilege with
    | error e' =>
        rw [hp] at hread
        cases hread
    | ok priv =>
        rw [hp] at hread
        exact fault_memReadPriv hread

/-- The fault of a fetch. -/
def FetchResult.fault : FetchResult → Option ExceptionType
  | .F_Error e _ => some e
  | _ => none

theorem FetchResult.fault_eq_some {r : FetchResult} {e : ExceptionType}
    (h : r.fault = some e) : ∃ addr, r = .F_Error e addr := by
  cases r with
  | F_Error e' addr =>
      cases h
      exact ⟨addr, rfl⟩
  | F_Base w => cases h
  | F_RVC w => cases h

/-- The result of a fetch that is no fault of alignment. -/
def NotMisaligned (r : FetchResult) : Prop := ∀ addr, r ≠ .F_Error .E_Fetch_Addr_Align addr

/-- A fetch that finds no value at an address, unless that is misaligned. -/
theorem returns_onMemValue (addr : Xlenbits) (pa : Xlenbits) (n : ℕ)
    {k : BitVec (8 * n) → M FetchResult} (hk : ∀ v, Exec.Returns NotMisaligned (k v)) :
    Exec.Returns NotMisaligned (do
      onMemValue (fetchError addr) (← memRead .Execute pa n false false false) k) := by
  refine Exec.returns_bind_of (returns_memRead .Execute pa n) (fun r hr => ?_)
  cases r with
  | MemValue v => exact hk v
  | MemException e =>
      refine Exec.returns_pure (fun a ha => ?_)
      cases ha
      exact hr _ rfl rfl

/-- A fetch that finds no physical address. -/
theorem returns_onAddress (addr : Xlenbits) {k : Xlenbits → M FetchResult}
    (hk : ∀ pa, Exec.Returns NotMisaligned (k pa)) : Exec.Returns NotMisaligned (do
      onAddress (fetchError addr) (← translateAddr addr .Execute) k) := by
  refine Exec.returns_bind_of (returns_translateAddr addr .Execute) (fun r hr => ?_)
  cases r with
  | TR_Address pa => exact hk pa
  | TR_Failure e =>
      refine Exec.returns_pure (fun a ha => ?_)
      cases ha
      exact hr _ rfl rfl

theorem returns_fetchUpper (pc : Xlenbits) (ilo : BitVec 16) :
    Exec.Returns NotMisaligned (fetchUpper pc ilo) := by
  refine returns_onAddress _ (fun ppchi => returns_onMemValue _ _ _ (fun ihi => ?_))
  exact Exec.returns_pure (fun a ha => by cases ha)

theorem returns_fetchLower (pc : Xlenbits) : Exec.Returns NotMisaligned (fetchLower pc) := by
  refine returns_onAddress _ (fun ppclo => ?_)
  refine @Exec.returns_bind _ _ _ _ _ _ _ (fun _ => returns_onMemValue _ _ _ (fun ilo => ?_))
  split_ifs
  · exact Exec.returns_pure (fun a ha => by cases ha)
  · exact returns_fetchUpper pc ilo

/-- **A fetch from an aligned program counter raises no fault of alignment.** -/
theorem fetch_of_aligned {s s' : State} {r : FetchResult} (h : PcAligned s)
    (hfetch : fetch.run s = .ok (r, s')) : NotMisaligned r := by
  have hmis : fetchMisaligned s = false := by
    unfold fetchMisaligned
    rw [h.1, Bool.false_or]
    cases hZca : extensionEnabled s .Zca with
    | true => simp
    | false =>
        have hC : Misa.C.get s.misa ≠ 1#1 := by
          intro hC
          rw [extensionEnabled_Zca.mpr hC] at hZca
          cases hZca
        rw [h.2 hC, Bool.false_and]
  unfold fetch at hfetch
  rw [Exec.run_bind_of_ok (Exec.run_reads _ _), Exec.run_bind_of_ok (Exec.run_reads _ _), hmis,
    if_neg (by simp)] at hfetch
  exact (returns_fetchLower s.pc).holds hfetch

/-! ## Runs -/

/-- No address has been written. -/
def Unstarted (s : State) : Prop := s.nextPC = 0#_ ∧ s.mepc = 0#_ ∧ s.sepc = 0#_

/-- The step writes no address. -/
def UnstartedStep (s s' : State) : Prop := Unstarted s → Unstarted s'

instance : Std.Refl UnstartedStep := ⟨fun _ h => h⟩

instance : IsTrans State UnstartedStep := ⟨fun _ _ _ h h' hs => h' (h hs)⟩

instance keeps_unstarted_initModel : Exec.Keeps UnstartedStep initModel := by
  unfold initModel initPlatform initSys initTLB initPmp
  repeat' first
    | infer_instance
    | exact Exec.keeps_update (fun _ h => h)
    | exact Exec.keeps_update (fun _ h => ⟨h.1, rfl, h.2.2⟩)
    | refine @Exec.keeps_bind _ _ _ _ _ _ _ _ ?_ (fun _ => ?_)
    | refine @Exec.keeps_ite _ _ _ _ _ _ _ _ ?_ ?_

/-- The C extension is on after the reset in the builds that have it. -/
theorem initMisa_C (m : Xlenbits) : Misa.C.get (initMisa m) = boolToBits sysEnableRvc := by
  have hx := xlen_ge
  unfold initMisa
  simp only
  rw [Field.get_set_of_apart (f := Misa.C) (g := Misa.D) (by decide),
    Field.get_set_of_apart (f := Misa.C) (g := Misa.F) (by decide),
    Field.get_set_of_apart (f := Misa.C) (g := Misa.V) (by decide),
    Field.get_set_of_apart (f := Misa.C) (g := Misa.S) (by decide),
    Field.get_set_of_apart (f := Misa.C) (g := Misa.U) (by decide),
    Field.get_set_of_apart (f := Misa.C) (g := Misa.M) (by decide),
    Field.get_set_of_apart (f := Misa.C) (g := Misa.I) (by decide),
    Field.get_set_of_apart (f := Misa.C) (g := Misa.B) (by decide),
    Field.get_set (by show 2 + 1 ≤ xlen; omega)]

/-- An entry point at which a build can begin. -/
def EntryAligned (entry : Xlenbits) : Prop :=
  entry.getLsbD 0 = false ∧ (sysEnableRvc = true ∨ entry.getLsbD 1 = false)

/-- The machine starts aligned. -/
theorem Boots.stepAligned {entry : Xlenbits} {s : State} (h : Boots entry s)
    (hentry : EntryAligned entry) : StepAligned s := by
  obtain ⟨-, hmisa, -⟩ := boots_cases h
  obtain ⟨mem, s₀, hinit, rfl⟩ := h
  obtain ⟨hnext, hmepc, hsepc⟩ : Unstarted s₀ :=
    keeps_unstarted_initModel.rel hinit ⟨rfl, rfl, rfl⟩
  have hzero (i : ℕ) : (0#_ : Xlenbits).getLsbD i = false := BitVec.getLsbD_zero
  have hC : Misa.C.get s₀.misa = boolToBits sysEnableRvc := hmisa ▸ initMisa_C 0#_
  refine ⟨⟨hentry.1, fun hne => ?_⟩, hentry.1, ⟨?_, fun _ => ?_⟩, ?_, ?_⟩
  · refine hentry.2.resolve_left (fun hrvc => hne ?_)
    rw [hC, hrvc]
    rfl
  · exact hnext ▸ hzero 0
  · exact hnext ▸ hzero 1
  · exact hmepc ▸ hzero 0
  · exact hsepc ▸ hzero 0

section

variable [SoftFloat]

/-- **The program counter stays aligned.**  In every run from an even entry point, a multiple of
four in a build without the C extension, the program counter is even after every turn, a multiple
of four while `misa.C` is clear, and no fetch raises a fault of alignment. -/
theorem pcAligned_of_trace {entry : Xlenbits} {s₀ s : State}
    {path : List (State × Turn × State)} (hboot : Boots entry s₀) (hentry : EntryAligned entry)
    (h : Trace Turns s₀ path s) :
    PcAligned s ∧ ∀ addr s', fetch.run s.begin ≠ .ok (.F_Error .E_Fetch_Addr_Align addr, s') := by
  have hs : StepAligned s :=
    h.invariant (hboot.stepAligned hentry) (fun _ hs hturn => hturn.stepAligned hs)
  refine ⟨hs.1, fun addr s' hfetch => ?_⟩
  have hbegin : PcAligned s.begin := hs.1
  exact fetch_of_aligned hbegin hfetch addr rfl

end

/-- A memory with a program at `0x80000002`: it sets `mepc` to this address, jumps to `0x80000010`,
clears `misa.C` and returns. -/
def clearCMem : ℕ → BitVec 8 :=
  Bytes.write (Bytes.write (fun _ => 0#8) 0x80000002 12
    (0x0060006F#32 ++ 0x34109073#32 ++ 0x00000097#32)) 0x80000010 8 (0x30200073#32 ++ 0x30127073#32)

omit [Platform] in
/-- A run from `0x80000002` that clears `misa.C`: the return masks the address in `mepc`. -/
theorem pcAligned_of_trace_clearC :
    letI := rv64Pmp 16 (by decide)
    letI : SoftFloat := default
    ∃ s₀ path s, Boots 0x80000002#_ s₀ ∧ Trace Turns s₀ path s ∧ path.length = 5
      ∧ Misa.C.get s.misa = 0#1 ∧ s.mepc = 0x80000002#_ ∧ s.pc = 0x80000000#_ ∧ PcAligned s
      ∧ ∀ addr s', fetch.run s.begin ≠ .ok (.F_Error .E_Fetch_Addr_Align addr, s') := by
  let := rv64Pmp 16 (by decide)
  let : SoftFloat := default
  have hall : (runSteps 0x80000002#_ 5).passes (State.zero clearCMem) (fun _ s =>
      Misa.C.get s.misa == 0#1 && s.mepc == 0x80000002#_ && s.pc == 0x80000000#_) = true := by
    decide +kernel
  obtain ⟨⟨⟩, s, hrun, htest⟩ := Exec.passes_iff.mp hall
  simp only [Bool.and_eq_true, beq_iff_eq] at htest
  obtain ⟨⟨hC, hmepc⟩, hpc⟩ := htest
  obtain ⟨s₀, path, hboot, htrace, hlen⟩ := exists_trace_of_runSteps hrun
  have hentry : EntryAligned 0x80000002#_ := ⟨by decide, Or.inl rfl⟩
  exact ⟨s₀, path, s, hboot, htrace, hlen, hC, hmepc, hpc, pcAligned_of_trace hboot hentry htrace⟩

omit [Platform] in
/-- Without the C extension, the first fetch from the even address `0x80000002` faults. -/
theorem misaligned_entry :
    letI := rv64NoRvc
    ∃ s : State, Boots 0x80000002#_ s ∧ (0x80000002#_ : Xlenbits).getLsbD 0 = false
      ∧ ∃ addr s', fetch.run s.begin = .ok (.F_Error .E_Fetch_Addr_Align addr, s') := by
  let := rv64NoRvc
  have hall : initModel.passes (State.zero (fun _ => 0#8)) (fun _ s₀ =>
      fetch.passes ({ s₀ with pc := 0x80000002#_ } : State).begin
        (fun r _ => r.fault == some .E_Fetch_Addr_Align)) = true := by
    decide +kernel
  obtain ⟨⟨⟩, s₀, hinit, hall⟩ := Exec.passes_iff.mp hall
  obtain ⟨r, s', hfetch, hr⟩ := Exec.passes_iff.mp hall
  obtain ⟨addr, rfl⟩ := FetchResult.fault_eq_some (beq_iff_eq.mp hr)
  exact ⟨_, ⟨_, s₀, hinit, rfl⟩, by decide, addr, s', hfetch⟩

end SailRiscv
