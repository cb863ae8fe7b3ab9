/-
# Integer instructions and the floating-point registers

The instructions of the integer extensions have nothing to do with the floating-point registers.
-/
import SailRiscv.FpFree
import SailRiscv.Insts.Ast

namespace SailRiscv

open Bits Platform

variable [Platform]

section

set_option synthInstance.maxSize 4000

variable {W : View} [CoreClosed W] [TrapClosed W]

/-- What does steps of the relation and takes at most one exception. -/
theorem keeps_of_settles {α : Type} {fail : α → Prop} {m : M α}
    (h : Exec.Settles W.rel SyncTrap fail m) : Exec.Keeps W.rel m where
  rel hr := by
    rcases h.out hr with ⟨-, hs⟩ | ⟨-, s₁, hs, ht⟩
    · exact hs
    · exact IsTrans.trans _ _ _ hs (TrapClosed.trap ht)

/-! ## Base instructions -/

instance [TraceClosed W.rel] (imm : BitVec 12) (rs1 rd : Regidx) (isUnsigned : Bool) (width : WordWidth)
    (aq rl : Bool) : FpFree W (executeLoad imm rs1 rd isUnsigned width aq rl) := by
  unfold executeLoad
  infer_instance

instance [TraceClosed W.rel] (imm : BitVec 12) (rs2 rs1 : Regidx) (width : WordWidth) (aq rl : Bool) :
    FpFree W (executeStore imm rs2 rs1 width aq rl) := by
  unfold executeStore
  infer_instance

instance (target : Xlenbits) (k : M Retired) [FpFree Anything k] :
    FpFree Anything (checkTarget target k) := by
  have := indep (W := Anything) (f := fun s => extensionEnabled s .Zca) (fun _ _ => rfl)
  unfold checkTarget
  infer_instance

instance (rd : Regidx) (target : Xlenbits) : FpFree Anything (linkTo rd target) := by
  unfold linkTo
  infer_instance

/-- Returns from traps see no floating-point registers. -/
instance (ctl : CtlResult) : FpFree Anything (xret ctl) := by
  have hmask (f : State → Xlenbits) (h : ∀ p s, f (fpSwap p s) = f s) :
      Exec.Indep Anything.swap (fun s : State => f s &&& pcAlignmentMask s) :=
    indep (W := Anything) (fun p s => by
      rw [h]
      rfl)
  have hm := hmask State.mepc (fun _ _ => rfl)
  have hs := hmask State.sepc (fun _ _ => rfl)
  have hpriv : FpFree Anything (Exec.checks (fun s => privLevelOfBits (Mstatus.MPP.get s.mstatus))
      : M Privilege) := by
    refine fpFree_checks (fun _ _ => rfl) (fun s => ?_)
    unfold privLevelOfBits
    split_ifs <;> rintro ⟨⟩
  unfold xret
  refine @Exec.plain_bind _ _ _ _ _ _ _ _ _ _ _ inferInstance (fun priv => ?_)
  refine @Exec.plain_bind _ _ _ _ _ _ _ _ _ _ _ inferInstance (fun pc => ?_)
  have hexc : FpFree Anything (exceptionHandler priv ctl pc) := by
    unfold exceptionHandler
    rcases ctl with e | _ | _
    · have := indep (W := Anything) (f := fun s => exceptionDelegatee s e.trap priv) (fun _ _ => rfl)
      infer_instance
    · exact @Exec.plain_bind _ _ _ _ _ _ _ _ _ _ _ (fpFree_anything (fun _ _ => rfl))
        (fun _ => inferInstance)
    · refine @Exec.plain_bind _ _ _ _ _ _ _ _ _ _ _ inferInstance (fun prev => ?_)
      exact @Exec.plain_bind _ _ _ _ _ _ _ _ _ _ _ (fpFree_anything (fun _ _ => rfl))
        (fun _ => inferInstance)
  infer_instance

instance : FpFree Anything platformWfi := by
  unfold platformWfi
  refine fpFree_anything (fun p s => ?_)
  have hlt : ((fpSwap p s).mtime < (fpSwap p s).mtimecmp) = (s.mtime < s.mtimecmp) := rfl
  by_cases hc : s.mtime < s.mtimecmp
  · rw [if_pos hc, if_pos (hlt ▸ hc)]
    rfl
  · rw [if_neg hc, if_neg (hlt ▸ hc)]

/-- Base instructions have nothing to do with floating-point registers. -/
theorem BaseInst.fpFree_anything (i : BaseInst) : FpFree Anything i.execute := by
  have htw := indep (W := Anything) (f := fun s => Mstatus.TW.get s.mstatus == 1#1) (fun _ _ => rfl)
  have hfence (r : Regidx) := indep (W := Anything) (f := fun s => fenceOperand s r) (fun _ _ => rfl)
  have hm := indep (W := Anything) (f := State.mstatus) (fun _ _ => rfl)
  have hsret := indep (W := Anything) (f := sretIllegal) (fun _ _ => rfl)
  cases i <;> (unfold BaseInst.execute; infer_instance)

/-- A base instruction other than a return from a trap. -/
theorem BaseInst.fpFree {i : BaseInst} (ht : i.Traced → TraceClosed W.rel) (hm : i ≠ .MRET)
    (hs : i ≠ .SRET) (hw : i = .WFI → ClockClosed W.rel) (heven : i.EvenOffset) :
    FpFree W i.execute :=
  fpFree_of_keeps (keeps_of_settles (BaseInst.settles ht hm hs hw heven)) i.fpFree_anything

/-! ## Extensions -/

instance ZifenceiInst.fpFree (i : ZifenceiInst) : FpFree W i.execute := by
  cases i
  unfold ZifenceiInst.execute
  infer_instance

instance SvinvalInst.fpFree (i : SvinvalInst) : FpFree W i.execute := by
  rcases i with ⟨rs1, rs2⟩ | _ | _
  · exact BaseInst.fpFree (i := .SFENCE_VMA rs1 rs2) nofun nofun nofun nofun trivial
  · unfold SvinvalInst.execute fenceInval
    infer_instance
  · unfold SvinvalInst.execute fenceInval
    infer_instance

instance FenceHintInst.fpFree (i : FenceHintInst) : FpFree W i.execute := by
  cases i <;> exact Exec.plain_pure _

instance ZicondInst.fpFree (i : ZicondInst) : FpFree W i.execute := by
  rcases i with ⟨rs2, rs1, rd, op⟩
  cases op <;> (unfold ZicondInst.execute; infer_instance)

instance (rs1 : Regidx) (cbop : CbopZicbom) : FpFree W (processCleanInval rs1 cbop) := by
  have hcheck (paddr : Xlenbits) : FpFree W (Exec.checks (fun s => cacheBlockCheck s paddr)
      : M (Option ExceptionType)) := by
    unfold cacheBlockCheck
    refine fpFree_checks (fun p s => ?_) (fun s => ?_)
    · rw [physAccessCheck_fpSwap, physAccessCheck_fpSwap]
      rfl
    · refine bind_ne_error (physAccessCheck_ne _ _ _ _ _) (fun e => ?_)
      refine bind_ne_error (physAccessCheck_ne _ _ _ _ _) (fun e' => ?_)
      split <;> rintro ⟨⟩
  have hexc (e : ExceptionType) : FpFree W (Exec.checks (fun _ => cacheBlockException e)
      : M ExceptionType) := by
    refine fpFree_checks (fun _ _ => rfl) (fun _ => ?_)
    unfold cacheBlockException
    split <;> rintro ⟨⟩
  have hend (vaddr : Xlenbits) (res : Option ExceptionType) : FpFree W
      (match res with
        | none => pure .RETIRE_SUCCESS
        | some e => do
            let e ← Exec.checks (fun _ => cacheBlockException e)
            memFault vaddr e : M Retired) := by
    rcases res <;> infer_instance
  unfold processCleanInval
  infer_instance

instance CacheBlockInst.fpFree (i : CacheBlockInst) : FpFree W i.execute := by
  have hzero := indep (W := W) (f := fun s => cboZeroEnabled s s.curPrivilege) (fun _ _ => rfl)
  have hclean := indep (W := W) (f := fun s => cboCleanFlushEnabled s s.curPrivilege) (fun _ _ => rfl)
  have hinval := indep (W := W) (f := fun s => cboInvalEnabled s s.curPrivilege) (fun _ _ => rfl)
  have has := indep (W := W) (f := fun s => cboInvalAsInval s s.curPrivilege) (fun _ _ => rfl)
  rcases i with ⟨cbop, rs1⟩ | rs1
  · cases cbop <;> (unfold CacheBlockInst.execute; infer_instance)
  · unfold CacheBlockInst.execute executeZicboz
    infer_instance

instance [ReservationClosed W.rel] (addr : Xlenbits) : FpFree W (loadReservation addr) :=
  fpFree_kept (keeps_loadReservation addr) (fun _ _ => rfl)

instance [ReservationClosed W.rel] : FpFree W cancelReservation :=
  fpFree_kept keeps_cancelReservation (fun _ _ => rfl)

instance [ReservationClosed W.rel] (rd : Regidx) (failed : Bool) :
    FpFree W (endStorecon rd failed) := by
  unfold endStorecon
  infer_instance

instance (op : Amoop) (aq rl : Bool) (rs2 rs1 : Regidx) (width : WordWidth) (rd : Regidx) :
    FpFree W (executeAmo op aq rl rs2 rs1 width rd) := by
  unfold executeAmo
  infer_instance

instance AtomicInst.fpFree [ReservationClosed W.rel] (i : AtomicInst) : FpFree W i.execute := by
  rcases i with _ | _ | _
  · unfold AtomicInst.execute executeLoadres
    infer_instance
  · have (addr : Xlenbits) := indep (W := W) (f := fun s => matchReservation s addr) (fun _ _ => rfl)
    unfold AtomicInst.execute executeStorecon
    infer_instance
  · unfold AtomicInst.execute
    infer_instance

instance MulInst.fpFree (i : MulInst) : FpFree W i.execute := by
  cases i <;> (unfold MulInst.execute; infer_instance)

instance ZbaInst.fpFree (i : ZbaInst) : FpFree W i.execute := by
  cases i <;> (unfold ZbaInst.execute; infer_instance)

instance ZbbInst.fpFree (i : ZbbInst) : FpFree W i.execute := by
  cases i <;> (unfold ZbbInst.execute; infer_instance)

instance ZbcInst.fpFree (i : ZbcInst) : FpFree W i.execute := by
  cases i <;> (unfold ZbcInst.execute; infer_instance)

instance ZbsInst.fpFree (i : ZbsInst) : FpFree W i.execute := by
  cases i <;> (unfold ZbsInst.execute; infer_instance)

omit [Platform] in
/-- One more row of a table. -/
theorem ite_ok_ne {α : Type} {c : Prop} [Decidable c] {a : α} {x : Except ModelError α}
    {e : ModelError} (h : x ≠ .error e) : (if c then .ok a else x) ≠ .error e := by
  by_cases hc : c
  · rw [if_pos hc]
    rintro ⟨⟩
  · rw [if_neg hc]
    exact h

instance (rnum : BitVec 4) : FpFree W (Exec.checks (fun _ => aesDecodeRcon rnum)) := by
  refine fpFree_checks (fun _ _ => rfl) (fun _ => ?_)
  unfold aesDecodeRcon
  by_cases hr : ¬ rnum < 0xA#4
  · rw [if_pos hr]
    intro h
    injection h with h
    exact absurd h (by decide)
  · rw [if_neg hr]
    iterate 10 refine ite_ok_ne ?_
    rintro ⟨⟩

instance (rs1 rd : Regidx) (f : BitVec 32 → BitVec 32) : FpFree W (unary32 rs1 rd f) := by
  unfold unary32
  infer_instance

instance (rs1 rd : Regidx) (f : BitVec 64 → BitVec 64) : FpFree W (unary64 rs1 rd f) := by
  unfold unary64
  infer_instance

instance (rs2 rs1 rd : Regidx) (f : BitVec 64 → BitVec 64 → BitVec 64) :
    FpFree W (binary64 rs2 rs1 rd f) := by
  unfold binary64
  infer_instance

instance (bs : BitVec 2) (rs2 rs1 rd : Regidx) (f : BitVec 8 → BitVec 32) :
    FpFree W (byteRound bs rs2 rs1 rd f) := by
  unfold byteRound
  infer_instance

instance (rs2 rs1 rd : Regidx) (f : Xlenbits → Xlenbits → Xlenbits) :
    FpFree W (binaryX rs2 rs1 rd f) := by
  unfold binaryX
  infer_instance

instance (bs : BitVec 2) (rs2 rs1 rd : Regidx) (f : BitVec 32 → BitVec 32) :
    FpFree W (sm4Round bs rs2 rs1 rd f) := by
  unfold sm4Round
  infer_instance

instance ZknInst.fpFree (i : ZknInst) : FpFree W i.execute := by
  cases i <;> (unfold ZknInst.execute; infer_instance)

instance ZksInst.fpFree (i : ZksInst) : FpFree W i.execute := by
  cases i <;> (unfold ZksInst.execute; infer_instance)

instance ZbkbInst.fpFree (i : ZbkbInst) : FpFree W i.execute := by
  cases i <;> (unfold ZbkbInst.execute; infer_instance)

instance ZbkxInst.fpFree (i : ZbkxInst) : FpFree W i.execute := by
  cases i <;> (unfold ZbkxInst.execute; infer_instance)

theorem ZcaInst.fpFree {i : ZcaInst} (ht : i.Traced → TraceClosed W.rel) :
    FpFree W i.execute := by
  unfold ZcaInst.execute
  cases h : i.base with
  | none => infer_instance
  | some b =>
      obtain ⟨hm, hs, heven⟩ := ZcaInst.evenOffset h
      exact BaseInst.fpFree (fun hb => ht ⟨b, h, hb⟩) hm hs
        (fun hw => absurd hw (ZcaInst.base_ne_wfi h)) heven

instance CHintInst.fpFree (i : CHintInst) : FpFree W i.execute := by
  unfold CHintInst.execute
  infer_instance

theorem ZcbInst.fpFree {i : ZcbInst} (ht : i.Traced → TraceClosed W.rel) :
    FpFree W i.execute := by
  unfold ZcbInst.execute
  cases i
  case C_LBU | C_LHU | C_LH | C_SB | C_SH =>
    have := ht trivial
    infer_instance
  all_goals infer_instance

end

end SailRiscv
