/-
# The permission of cache-block management

A cache-block management instruction is to complete when a load or a store of the block is
permitted.  The translation checks this at the privilege effective for accesses to data, the PMP
at the current privilege, so the two disagree with a load or a store in some states
(`managesByPermission_iff`).
-/
import SailRiscv.CacheBlockEnables
import SailRiscv.DataChecks
import SailRiscv.TrapReturn
import SailRiscv.Amo

namespace SailRiscv

open Bits Platform

variable [Platform]

/-! ## What is to hold -/

/-- The block that an instruction names. -/
def cacheBlockOf (s : State) (rs1 : Regidx) : Xlenbits := s.X rs1 + cacheBlockOffset (s.X rs1)

/-- An access to the whole block at `va` is permitted, by the translation and by the PMP, at the
privilege effective for it. -/
def BlockPermitted (s : State) (t : AccessType) (va : Xlenbits) : Prop :=
  ∃ q pa s', effectivePrivilege t s.mstatus s.curPrivilege = .ok q
    ∧ (translateAddr va t).run s = .ok (.TR_Address pa, s')
    ∧ physAccessCheck s' t q pa cacheBlockSize = .ok none

/-- A load or a store of the block is permitted. -/
def DataPermitted (s : State) (va : Xlenbits) : Prop :=
  BlockPermitted s .Read va ∨ BlockPermitted s .Write va

/-- An instruction for the block at `va` completes if a load or a store of the block is
permitted, and faults otherwise; in memory it changes at most the bits A and D of a PTE, and it
never aborts. -/
structure ManagesByPermission (s : State) (i : CacheBlockInst) (va : Xlenbits) : Prop where
  retires : (∃ s', i.execute.run s = .ok (.RETIRE_SUCCESS, s')) ↔ DataPermitted s va
  faults : ¬ DataPermitted s va → ∃ r s₁ e, (translateAddr va .Read).run s = .ok (r, s₁)
    ∧ (e = .E_SAMO_Page_Fault ∨ e = .E_SAMO_Access_Fault)
    ∧ i.execute.run s = (memFault va e).run s₁
  memory : ∀ r s', i.execute.run s = .ok (r, s') → NoLostUpdate s s' va .Read
  completes : ∃ r s', i.execute.run s = .ok (r, s')

/-- The PMP admits a load of the block, where the translation puts it, at the current privilege
exactly if it admits the load at the privilege effective for data. -/
def VerdictsAgree (s : State) (va : Xlenbits) : Prop :=
  ∀ pa s' q, (translateAddr va .Read).run s = .ok (.TR_Address pa, s') →
    effectivePrivilege .Read s.mstatus s.curPrivilege = .ok q →
      (physAccessCheck s .Read s.curPrivilege pa cacheBlockSize = .ok none
        ↔ physAccessCheck s .Read q pa cacheBlockSize = .ok none)

/-! ## The block -/

/-- The block of an address. -/
theorem cacheBlockOf_eq (s : State) (rs1 : Regidx) :
    cacheBlockOf s rs1 = s.X rs1 &&& ~~~lowOnes xlen platCacheBlockSizeExp := by
  unfold cacheBlockOf cacheBlockOffset
  rw [BitVec.add_comm, BitVec.sub_add_cancel]

/-- The size of a block. -/
theorem cacheBlockSize_pos : 0 < cacheBlockSize := Nat.two_pow_pos _

theorem cacheBlockSize_lt : cacheBlockSize < 2 ^ xlen := by
  have hx := xlen_ge
  have hexp := platCacheBlockSizeExp_le
  exact Nat.pow_lt_pow_right (by omega) (by omega)

/-! ## What a translation keeps -/

/-- The registers that the checks and a trap read are the same. -/
structure SameControl (s s' : State) : Prop where
  pmp : SamePmp s s'
  mtvec : s'.mtvec = s.mtvec
  stvec : s'.stvec = s.stvec
  curPrivilege : s'.curPrivilege = s.curPrivilege

instance : Std.Refl SameControl := ⟨fun _ => ⟨⟨rfl, rfl⟩, rfl, rfl, rfl⟩⟩

instance : IsTrans State SameControl :=
  ⟨fun _ _ _ h h' => ⟨IsTrans.trans _ _ _ h.pmp h'.pmp, h'.mtvec.trans h.mtvec,
    h'.stvec.trans h.stvec, h'.curPrivilege.trans h.curPrivilege⟩⟩

instance : TlbClosed SameControl where
  devices _ _ := ⟨⟨rfl, rfl⟩, rfl, rfl, rfl⟩
  store _ _ _ _ _ := ⟨⟨rfl, rfl⟩, rfl, rfl, rfl⟩
  tlb _ _ _ := ⟨⟨rfl, rfl⟩, rfl, rfl, rfl⟩

section

variable {s s₁ : State} {va pa : Xlenbits} {r : TRResult Xlenbits ExceptionType}

/-- A memory fault completes while no trap vector is reserved. -/
theorem run_memFault_ok (h : TvecLegal s) (va : Xlenbits) (e : ExceptionType) :
    ∃ s', (memFault va e).run s = .ok (.RETIRE_FAIL, s') := by
  obtain ⟨hd, intr, c, info, hrun⟩ := (TrapOf.exception (s := s) ⟨e, some va⟩).cases
  have htrap : ∃ target s', (exceptionHandler s.curPrivilege (.CTL_TRAP ⟨e, some va⟩) s.pc).run s
      = .ok (target, s') := by
    rw [hrun]
    rcases hd with hd | ⟨hd, hS, hp⟩
    · obtain ⟨target, ht⟩ := tvecAddr_isSome h.mtvec (trapCause s.mcause intr c)
      rw [hd, run_trapHandler_machine, ht]
      exact ⟨_, _, rfl⟩
    · obtain ⟨target, ht⟩ := tvecAddr_isSome h.stvec (trapCause s.scause intr c)
      rw [hd, run_trapHandler_supervisor hS hp, ht]
      exact ⟨_, _, rfl⟩
  obtain ⟨target, s', htrap⟩ := htrap
  refine ⟨{ s' with nextPC := target }, ?_⟩
  have hsync : (handleMemException va e).run s = .ok ((), { s' with nextPC := target }) := by
    unfold handleMemException handleSync
    rw [Exec.run_bind_of_ok (Exec.run_reads _ _), Exec.run_bind_of_ok (Exec.run_reads _ _),
      Exec.run_bind_of_ok htrap]
    rfl
  unfold memFault
  rw [Exec.run_bind_of_ok hsync]
  rfl

/-- The registers of the trap vectors after a translation. -/
theorem SameControl.tvecLegal (h : SameControl s s₁) (ht : TvecLegal s) : TvecLegal s₁ := by
  constructor
  · rw [h.mtvec]
    exact ht.mtvec
  · rw [h.stvec]
    exact ht.stvec

/-- The check of the block admits it if it admits a load. -/
theorem cacheBlockCheck_of_admitted (h : DataLegal s) (hsame : SameControl s s₁)
    (hc : physAccessCheck s .Read s.curPrivilege pa cacheBlockSize = .ok none) :
    cacheBlockCheck s₁ pa = .ok none := by
  unfold cacheBlockCheck
  rw [physAccessCheck_congr hsame.pmp, physAccessCheck_congr hsame.pmp, hsame.curPrivilege, hc]
  rcases physAccessCheck_ok h.pmp cacheBlockSize_pos cacheBlockSize_lt .Write s.curPrivilege pa
    with hw | hw
  · rw [hw]
    rfl
  · rw [hw]
    rfl

/-- The check of the block faults if it does not admit a load, for then it does not admit a
store. -/
theorem cacheBlockCheck_of_denied (h : DataLegal s) (hsame : SameControl s s₁)
    (hc : physAccessCheck s .Read s.curPrivilege pa cacheBlockSize ≠ .ok none) :
    cacheBlockCheck s₁ pa = .ok (some .E_SAMO_Access_Fault) := by
  have hread := (physAccessCheck_ok h.pmp cacheBlockSize_pos cacheBlockSize_lt .Read
    s.curPrivilege pa).resolve_left hc
  have hwrite := (physAccessCheck_ok h.pmp cacheBlockSize_pos cacheBlockSize_lt .Write
    s.curPrivilege pa).resolve_left (fun hw => hc (physAccessCheck_read_of_write h.pmp h.readable
      cacheBlockSize_pos cacheBlockSize_lt hw))
  unfold cacheBlockCheck
  rw [physAccessCheck_congr hsame.pmp, physAccessCheck_congr hsame.pmp, hsame.curPrivilege, hread,
    hwrite]
  rfl

omit [Platform] in
/-- The exceptions of the translation of a load are reported as those of a store. -/
theorem cacheBlockException_translation (f : PTWError) :
    ∃ e, cacheBlockException (translationException .Read f) = .ok e
      ∧ (e = .E_SAMO_Page_Fault ∨ e = .E_SAMO_Access_Fault) := by
  rcases f
  all_goals first
    | exact ⟨_, rfl, Or.inl rfl⟩
    | exact ⟨_, rfl, Or.inr rfl⟩

/-- An enabled instruction. -/
theorem run_execute_of_enabled {cbop : CbopZicbom} {rs1 : Regidx}
    (h : (CacheBlockInst.RISCV_ZICBOM cbop rs1).enabled s s.curPrivilege = true) :
    (CacheBlockInst.RISCV_ZICBOM cbop rs1).execute.run s = (processCleanInval rs1 cbop).run s := by
  rcases cbop
  all_goals
    exact (congrArg (fun m : M Retired => m.run s) (if_pos h)).trans rfl

/-- The instruction after the translation. -/
theorem run_processCleanInval {rs1 : Regidx} {cbop : CbopZicbom}
    (h : (translateAddr (cacheBlockOf s rs1) .Read).run s = .ok (r, s₁)) :
    (processCleanInval rs1 cbop).run s = (do
      let res ← onAddress (fun e => pure (some e)) r
        fun paddr => Exec.checks (fun s => cacheBlockCheck s paddr)
      match res with
      | none => pure .RETIRE_SUCCESS
      | some e => do
          let e ← Exec.checks (fun _ => cacheBlockException e)
          memFault (cacheBlockOf s rs1) e : M Retired).run s₁ := by
  have hx : (rX rs1).run s = .ok (s.X rs1, s) := rfl
  have ha : (extDataGetAddr rs1 (cacheBlockOffset (s.X rs1))).run s
      = .ok (cacheBlockOf s rs1, s) := rfl
  unfold processCleanInval
  rw [Exec.run_bind_of_ok hx, Exec.run_bind_of_ok ha]
  exact Exec.run_bind_of_ok h

/-- The block at `va` is translated for a load, and the PMP admits the load at the privilege `q`. -/
def LoadAdmitted (s : State) (va : Xlenbits) (q : Privilege) : Prop :=
  ∃ pa s', (translateAddr va .Read).run s = .ok (.TR_Address pa, s')
    ∧ physAccessCheck s .Read q pa cacheBlockSize = .ok none

/-- **What an enabled instruction does**: it completes if a load is admitted at the current
privilege, and faults otherwise. -/
theorem run_manage {cbop : CbopZicbom} {rs1 : Regidx} (h : DataLegal s)
    (hen : (CacheBlockInst.RISCV_ZICBOM cbop rs1).enabled s s.curPrivilege = true) :
    ∃ r s₁, (translateAddr (cacheBlockOf s rs1) .Read).run s = .ok (r, s₁) ∧ SameControl s s₁
      ∧ ((LoadAdmitted s (cacheBlockOf s rs1) s.curPrivilege
          ∧ (CacheBlockInst.RISCV_ZICBOM cbop rs1).execute.run s = .ok (.RETIRE_SUCCESS, s₁))
        ∨ (¬ LoadAdmitted s (cacheBlockOf s rs1) s.curPrivilege
          ∧ ∃ e, (e = .E_SAMO_Page_Fault ∨ e = .E_SAMO_Access_Fault)
            ∧ (CacheBlockInst.RISCV_ZICBOM cbop rs1).execute.run s
              = (memFault (cacheBlockOf s rs1) e).run s₁)) := by
  obtain ⟨r, s₁, htr⟩ := translateAddr_ok h (cacheBlockOf s rs1)
  have hsame : SameControl s s₁ := (keeps_translateAddr _ _).rel htr
  refine ⟨r, s₁, htr, hsame, ?_⟩
  rw [run_execute_of_enabled hen, run_processCleanInval htr]
  rcases r with pa | e
  · by_cases hc : physAccessCheck s .Read s.curPrivilege pa cacheBlockSize = .ok none
    · have hcheck : (Exec.checks (fun s => cacheBlockCheck s pa)).run s₁ = .ok (none, s₁) :=
        Exec.run_checks_ok.mpr ⟨cacheBlockCheck_of_admitted h hsame hc, rfl⟩
      exact Or.inl ⟨⟨pa, s₁, htr, hc⟩, Exec.run_bind_of_ok hcheck⟩
    · have hcheck : (Exec.checks (fun s => cacheBlockCheck s pa)).run s₁
          = .ok (some .E_SAMO_Access_Fault, s₁) :=
        Exec.run_checks_ok.mpr ⟨cacheBlockCheck_of_denied h hsame hc, rfl⟩
      refine Or.inr ⟨?_, _, Or.inr rfl, (Exec.run_bind_of_ok hcheck).trans rfl⟩
      rintro ⟨pa', s', htr', hc'⟩
      rw [htr] at htr'
      cases htr'
      exact hc hc'
  · obtain ⟨f, rfl⟩ := exception_of_translateAddr htr
    obtain ⟨e, he, hor⟩ := cacheBlockException_translation f
    have hexc : (Exec.checks (fun _ : State => cacheBlockException (translationException .Read f))).run
        s₁ = .ok (e, s₁) := Exec.run_checks_ok.mpr ⟨he, rfl⟩
    refine Or.inr ⟨?_, e, hor, (Exec.run_bind_of_ok rfl).trans (Exec.run_bind_of_ok hexc)⟩
    rintro ⟨pa', s', htr', -⟩
    rw [htr] at htr'
    cases htr'

/-- A load or a store of the block is permitted exactly if a load is admitted at the privilege
effective for data. -/
theorem dataPermitted_iff {q : Privilege} (h : DataLegal s)
    (hq : effectivePrivilege .Read s.mstatus s.curPrivilege = .ok q) :
    DataPermitted s va ↔ LoadAdmitted s va q := by
  constructor
  · rintro (⟨q', pa, s', hq', htr, hc⟩ | ⟨q', pa, s', hq', htr, hc⟩)
    · obtain rfl := Except.ok.inj (hq.symm.trans hq')
      have hsame : SameControl s s' := (keeps_translateAddr _ _).rel htr
      rw [physAccessCheck_congr hsame.pmp] at hc
      exact ⟨pa, s', htr, hc⟩
    · rw [effectivePrivilege_write] at hq'
      obtain rfl := Except.ok.inj (hq.symm.trans hq')
      have hsame : SameControl s s' := (keeps_translateAddr _ _).rel htr
      rw [physAccessCheck_congr hsame.pmp] at hc
      obtain ⟨s'', hread⟩ := translateAddr_read_of_write h ⟨s', htr⟩
      exact ⟨pa, s'', hread, physAccessCheck_read_of_write h.pmp h.readable cacheBlockSize_pos
        cacheBlockSize_lt hc⟩
  · rintro ⟨pa, s', htr, hc⟩
    have hsame : SameControl s s' := (keeps_translateAddr _ _).rel htr
    refine Or.inl ⟨q, pa, s', hq, htr, ?_⟩
    rw [physAccessCheck_congr hsame.pmp]
    exact hc

/-- The verdicts agree exactly if a load is admitted at both privileges or at none. -/
theorem verdictsAgree_iff {q : Privilege} (hq : effectivePrivilege .Read s.mstatus s.curPrivilege
    = .ok q) : VerdictsAgree s va ↔ (LoadAdmitted s va s.curPrivilege ↔ LoadAdmitted s va q) := by
  constructor
  · intro h
    constructor
    · rintro ⟨pa, s', htr, hc⟩
      exact ⟨pa, s', htr, (h pa s' q htr hq).mp hc⟩
    · rintro ⟨pa, s', htr, hc⟩
      exact ⟨pa, s', htr, (h pa s' q htr hq).mpr hc⟩
  · intro h pa s' q' htr hq'
    obtain rfl := Except.ok.inj (hq.symm.trans hq')
    have hat (p : Privilege) : LoadAdmitted s va p
        ↔ physAccessCheck s .Read p pa cacheBlockSize = .ok none := by
      constructor
      · rintro ⟨pa', s'', htr', hc⟩
        rw [htr] at htr'
        cases htr'
        exact hc
      · exact fun hc => ⟨pa, s', htr, hc⟩
    rw [← hat, ← hat]
    exact h

end

/-- **The permission of cache-block management.**  In every legal state an enabled instruction
completes if a load or a store of the block is permitted, and faults otherwise, exactly when the
PMP gives a load of the block the same verdict at the current privilege as at the privilege that
is effective for data. -/
theorem managesByPermission_iff {s : State} (h : DataLegal s) (hvec : TvecLegal s)
    (cbop : CbopZicbom) (rs1 : Regidx)
    (hen : (CacheBlockInst.RISCV_ZICBOM cbop rs1).enabled s s.curPrivilege = true) :
    ManagesByPermission s (.RISCV_ZICBOM cbop rs1) (cacheBlockOf s rs1)
      ↔ VerdictsAgree s (cacheBlockOf s rs1) := by
  obtain ⟨q, hq⟩ := h.priv
  obtain ⟨r, s₁, htr, hsame, hrun⟩ := run_manage h hen
  rw [verdictsAgree_iff hq]
  have hretires : (∃ s', (CacheBlockInst.RISCV_ZICBOM cbop rs1).execute.run s
      = .ok (.RETIRE_SUCCESS, s')) ↔ LoadAdmitted s (cacheBlockOf s rs1) s.curPrivilege := by
    rcases hrun with ⟨hadm, hok⟩ | ⟨hno, e, -, hfault⟩
    · exact iff_of_true ⟨_, hok⟩ hadm
    · refine iff_of_false ?_ hno
      rintro ⟨s', hs'⟩
      rw [hfault] at hs'
      cases (run_memFault hs').1
  constructor
  · intro hlaw
    rw [← hretires, hlaw.retires, dataPermitted_iff h hq]
  · intro hagree
    constructor
    · rw [hretires, hagree, dataPermitted_iff h hq]
    · intro hno
      rw [dataPermitted_iff h hq, ← hagree] at hno
      rcases hrun with ⟨hadm, -⟩ | ⟨-, e, he, hfault⟩
      · exact absurd hadm hno
      · exact ⟨r, s₁, e, htr, he, hfault⟩
    · intro r' s' hs'
      have hlost := noLostUpdate_of_read h htr
      have hmem : s'.mem = s₁.mem := by
        rcases hrun with ⟨-, hok⟩ | ⟨-, e, -, hfault⟩
        · rw [hok] at hs'
          cases hs'
          rfl
        · rw [hfault] at hs'
          exact (run_memFault hs').2.sameData.mem
      intro b i hne
      rw [hmem] at hne
      exact hlost b i hne
    · rcases hrun with ⟨-, hok⟩ | ⟨-, e, -, hfault⟩
      · exact ⟨_, _, hok⟩
      · obtain ⟨s', hs'⟩ := run_memFault_ok (hsame.tvecLegal hvec) (cacheBlockOf s rs1) e
        exact ⟨_, _, hfault.trans hs'⟩

/-! ## Machine mode with `MPRV` -/

/-- Machine mode, with or without `MPRV`, which makes the privilege of `MPP`, user mode, effective
for data.  No PMP entry is on, so that only machine mode is admitted. -/
def modifiedPrivilege (mprv : Bool) : State :=
  { State.zero (fun _ => 0#8) with
    curPrivilege := .Machine
    mstatus := if mprv then 0x20000#_ else 0#_ }

omit [Platform] in
/-- The state is legal. -/
theorem dataLegal_modifiedPrivilege (mprv : Bool) :
    letI := rv32CacheBlock
    DataLegal (modifiedPrivilege mprv) := by
  let := rv32CacheBlock
  constructor
  · rcases mprv
    · exact ⟨.Machine, rfl⟩
    · exact ⟨.User, rfl⟩
  · intro q hq
    rcases mprv <;> cases hq <;> exact ⟨_, rfl⟩
  · exact PmpReset.legal ⟨fun _ => rfl, fun _ => rfl⟩
  · intro i hi
    exact absurd hi (show Pmpcfg.W.get 0#8 ≠ 1#1 by decide)
  · intro i e he
    cases he

omit [Platform] in
theorem tvecLegal_modifiedPrivilege (mprv : Bool) :
    letI := rv32CacheBlock
    TvecLegal (modifiedPrivilege mprv) := by
  let := rv32CacheBlock
  exact ⟨not_reserved_zero, not_reserved_zero⟩

omit [Platform] in
/-- Without `MPRV` the law holds. -/
theorem managesByPermission_iff_machine :
    letI := rv32CacheBlock
    ManagesByPermission (modifiedPrivilege false) (.RISCV_ZICBOM .CBO_CLEAN 1#5)
        (cacheBlockOf (modifiedPrivilege false) 1#5)
      ↔ VerdictsAgree (modifiedPrivilege false) (cacheBlockOf (modifiedPrivilege false) 1#5) := by
  let := rv32CacheBlock
  exact managesByPermission_iff (dataLegal_modifiedPrivilege false)
    (tvecLegal_modifiedPrivilege false) _ _ rfl

omit [Platform] in
/-- With `MPRV`, a block that user mode can neither load nor store is managed all the same. -/
theorem manages_without_permission :
    letI := rv32CacheBlock
    ¬ ∀ (s : State) (cbop : CbopZicbom) (rs1 : Regidx), DataLegal s → TvecLegal s →
      (CacheBlockInst.RISCV_ZICBOM cbop rs1).enabled s s.curPrivilege = true →
        ManagesByPermission s (.RISCV_ZICBOM cbop rs1) (cacheBlockOf s rs1) := by
  let := rv32CacheBlock
  intro h
  have hlegal := dataLegal_modifiedPrivilege true
  have hlaw := h (modifiedPrivilege true) .CBO_CLEAN 1#5 hlegal (tvecLegal_modifiedPrivilege true)
    rfl
  have hoff : (translateAddr (cacheBlockOf (modifiedPrivilege true) 1#5) .Read).run
      (modifiedPrivilege true)
        = .ok (.TR_Address (cacheBlockOf (modifiedPrivilege true) 1#5), modifiedPrivilege true) :=
    run_translateAddr_of_off ⟨.User, .Sbare, by decide, by decide, rfl⟩ _
  have hmachine : LoadAdmitted (modifiedPrivilege true) (cacheBlockOf (modifiedPrivilege true) 1#5)
      (modifiedPrivilege true).curPrivilege := ⟨_, _, hoff, by decide +kernel⟩
  have hretires : ∃ s', (CacheBlockInst.RISCV_ZICBOM .CBO_CLEAN 1#5).execute.run
      (modifiedPrivilege true) = .ok (.RETIRE_SUCCESS, s') := by
    have hen : (CacheBlockInst.RISCV_ZICBOM .CBO_CLEAN 1#5).enabled (modifiedPrivilege true)
        (modifiedPrivilege true).curPrivilege = true := rfl
    obtain ⟨r, s₁, -, -, ⟨-, hok⟩ | ⟨hno, -⟩⟩ := run_manage hlegal hen
    · exact ⟨s₁, hok⟩
    · exact absurd hmachine hno
  obtain ⟨pa, s', htr, hc⟩ := (dataPermitted_iff (q := .User) hlegal rfl).mp (hlaw.retires.mp hretires)
  rw [hoff] at htr
  cases htr
  exact absurd hc (by decide +kernel)

end SailRiscv
