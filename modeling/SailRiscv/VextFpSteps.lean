/-
# Vector floating-point instructions

What vector floating-point instructions do to the state, in the same terms as for the scalar
ones.  Instructions with a scalar operand need the floating-point registers; the others need
a place for the flags only.
-/
import SailRiscv.FpSteps
import SailRiscv.Insts.VextFp

namespace SailRiscv

open Bits Platform

variable [Platform]

instance : OtherLabel "invalid vector floating-point type width: FLEN < SEW" := ⟨by decide⟩

instance : OtherLabel "SEW != 8" := ⟨by decide⟩

instance : OtherLabel "SEW >= 16 & SEW_widen <= 64" := ⟨by decide⟩

section

set_option synthInstance.maxSize 4000

variable {W : View} [CoreClosed W] [TrapClosed W] [VecClosed W] [FpClosed W]

/-! ## The common parts of the clauses -/

instance : FpFree W getFrm := by
  unfold getFrm
  infer_instance

omit [TrapClosed W] [VecClosed W] [FpClosed W] in
/-- A failed assertion that is not one of an accessor. -/
theorem fpFree_assertFailed (msg : String) [h : OtherLabel msg] :
    FpFree W (Exec.abort (.assertFailed msg) : M Retired) := by
  refine fpFree_abort (fun he => ?_)
  injection he with he
  exact h.ne he

instance (c : VConf) (k : FpFormat → M Retired) [∀ f, FpFree W (k f)] :
    FpFree W (onFormat c k) := by
  have := fpFree_assertFailed (W := W) "SEW != 8"
  unfold onFormat
  infer_instance

instance (c : VConf) (k : FpFormat → M Retired) [∀ f, FpFree W (k f)] :
    FpFree W (onNarrowFormat c k) := by
  have := fpFree_assertFailed (W := W) "SEW >= 16 & SEW_widen <= 64"
  unfold onNarrowFormat
  infer_instance

instance fpFree_getScalarFp (rs1 : Regidx) (f : FpFormat) [h : Ready W FRegs] :
    FpFree W (getScalarFp rs1 f) := by
  unfold getScalarFp
  refine fpFree_assert_bind (fun hfits => ?_)
  have : Ready W f.Fits := ⟨fun _ => by simpa [FpFormat.Fits] using hfits⟩
  infer_instance

instance (c : VConf) (f : FpFormat) (r : Regidx) : FpFree W (c.fgroup f r) := by
  unfold VConf.fgroup
  infer_instance

instance (c : VConf) (f : FpFormat) (r : Regidx) : FpFree W (c.fgroupWiden f r) := by
  unfold VConf.fgroupWiden
  infer_instance

instance {β : FpFormat → Type} (vm : BitVec 1) (vd vs2 : Regidx)
    (src1 : VConf → (f : FpFormat) → M (β f))
    (elem : VConf → BitVec 3 → (f : FpFormat) → β f → (v2 old : ℕ → BitVec f.width) → ℕ →
      M (Option (BitVec f.width))) [∀ c f, FpFree W (src1 c f)]
    [∀ c rm f b v2 old i, FpFree W (elem c rm f b v2 old i)] :
    FpFree W (fpSameWidth vm vd vs2 src1 elem) := by
  unfold fpSameWidth
  infer_instance

instance {β γ : FpFormat → Type} (vm : BitVec 1) (vd : Regidx) (overlap : VConf → Bool)
    (src1 : VConf → (f : FpFormat) → M (β f)) (src2 : VConf → (f : FpFormat) → M (γ f))
    (elem : BitVec 3 → (f : FpFormat) → β f → γ f → (old : ℕ → BitVec f.widen.width) → ℕ →
      M (BitVec f.widen.width)) [∀ c f, FpFree W (src1 c f)] [∀ c f, FpFree W (src2 c f)]
    [∀ rm f a b old i, FpFree W (elem rm f a b old i)] :
    FpFree W (fpWidening vm vd overlap src1 src2 elem) := by
  unfold fpWidening
  infer_instance

instance {β : FpFormat → Type} (vm : BitVec 1) (vd vs2 : Regidx)
    (src1 : VConf → (f : FpFormat) → M (β f))
    (elem : (f : FpFormat) → β f → (ℕ → BitVec f.width) → ℕ → M Bool)
    [∀ c f, FpFree W (src1 c f)] [∀ f b v2 i, FpFree W (elem f b v2 i)] :
    FpFree W (fpCompare vm vd vs2 src1 elem) := by
  unfold fpCompare
  infer_instance

instance {m : ℕ} (g : FpFormat) (n numElemVd : ℕ) (lmul : ℤ) (vm : BitVec 1) (vs1 vd : Regidx)
    (readVs2 : M (ℕ → BitVec m)) (elem : BitVec g.width → BitVec m → M (BitVec g.width))
    [FpFree W readVs2] [∀ a b, FpFree W (elem a b)] :
    FpFree W (fpReduce g n numElemVd lmul vm vs1 vd readVs2 elem) := by
  unfold fpReduce
  infer_instance

/-! ## Operations on elements -/

section Operations

variable [SoftFloat] [Ready W FpBuild] {f : FpFormat}

omit [SoftFloat] in
instance {α : Type} (r : Fflags × α) : FpFree W (accrued r) := by
  unfold accrued
  infer_instance

instance (rm : BitVec 3) (a b : BitVec f.width) : FpFree W (fpAdd rm a b) := by
  unfold fpAdd
  infer_instance

instance (rm : BitVec 3) (a b : BitVec f.width) : FpFree W (fpSub rm a b) := by
  unfold fpSub
  infer_instance

instance (rm : BitVec 3) (a b : BitVec f.width) : FpFree W (fpMul rm a b) := by
  unfold fpMul
  infer_instance

instance (rm : BitVec 3) (a b : BitVec f.width) : FpFree W (fpDiv rm a b) := by
  unfold fpDiv
  infer_instance

instance (a b : BitVec f.width) : FpFree W (fpMin a b) := by
  unfold fpMin
  infer_instance

instance (a b : BitVec f.width) : FpFree W (fpMax a b) := by
  unfold fpMax
  infer_instance

instance (a : BitVec f.width) : FpFree W (fpWiden a) := by
  unfold fpWiden
  infer_instance

instance (op : Fvvmafunct6) (rm : BitVec 3) (a b d : BitVec f.width) :
    FpFree W (op.elem rm a b d) := by
  unfold Fvvmafunct6.elem fpMuladd fpNmulsub fpMulsub fpNmuladd
  cases op <;> infer_instance

instance (op : Fwvvfunct6) (rm : BitVec 3) (a b : BitVec f.width) : FpFree W (op.elem rm a b) := by
  unfold Fwvvfunct6.elem
  cases op <;> infer_instance

instance (op : Fwvvmafunct6) (rm : BitVec 3) (a b : BitVec f.width) (d : BitVec f.widen.width) :
    FpFree W (op.elem rm a b d) := by
  unfold Fwvvmafunct6.elem fpMuladd fpNmulsub fpMulsub fpNmuladd
  cases op <;> infer_instance

instance (op : Fwvfunct6) (rm : BitVec 3) (a : BitVec f.widen.width) (b : BitVec f.width) :
    FpFree W (op.elem rm a b) := by
  unfold Fwvfunct6.elem
  cases op <;> infer_instance

instance (op : Vfwunary0) (rm : BitVec 3) (a : BitVec f.width) : FpFree W (op.elem rm a) := by
  unfold Vfwunary0.elem
  cases op <;> infer_instance

instance (op : Vfnunary0) (rm : BitVec 3) (a : BitVec f.widen.width) :
    FpFree W (op.elem rm a) := by
  unfold Vfnunary0.elem
  cases op <;> infer_instance

omit [Ready W FpBuild] [SoftFloat] in
instance (m : M Bool) [FpFree W m] : FpFree W (notM m) := by
  unfold notM
  infer_instance

end Operations

/-! ## Clauses with vector operands -/

section Vectors

variable [SoftFloat] [Ready W FpBuild]

instance (op : Fvvfunct6) (vm : BitVec 1) (vs2 vs1 vd : Regidx) :
    FpFree W (executeFVVTYPE op vm vs2 vs1 vd) := by
  unfold executeFVVTYPE
  cases op <;> infer_instance

instance (op : Fvvmafunct6) (vm : BitVec 1) (vs2 vs1 vd : Regidx) :
    FpFree W (executeFVVMATYPE op vm vs2 vs1 vd) := by
  unfold executeFVVMATYPE
  infer_instance

instance (vm : BitVec 1) (vs2 : Regidx) (op : Vfunary0) (vd : Regidx) :
    FpFree W (executeVFUNARY0 vm vs2 op vd) := by
  unfold executeVFUNARY0
  cases op <;> infer_instance

instance (vm : BitVec 1) (vs2 : Regidx) (op : Vfunary1) (vd : Regidx) :
    FpFree W (executeVFUNARY1 vm vs2 op vd) := by
  unfold executeVFUNARY1
  cases op <;> infer_instance

instance (op : Fwvvfunct6) (vm : BitVec 1) (vs2 vs1 vd : Regidx) :
    FpFree W (executeFWVVTYPE op vm vs2 vs1 vd) := by
  unfold executeFWVVTYPE
  infer_instance

instance (op : Fwvvmafunct6) (vm : BitVec 1) (vs1 vs2 vd : Regidx) :
    FpFree W (executeFWVVMATYPE op vm vs1 vs2 vd) := by
  unfold executeFWVVMATYPE
  infer_instance

instance (op : Fwvfunct6) (vm : BitVec 1) (vs2 vs1 vd : Regidx) :
    FpFree W (executeFWVTYPE op vm vs2 vs1 vd) := by
  unfold executeFWVTYPE
  infer_instance

instance (vm : BitVec 1) (vs2 : Regidx) (op : Vfwunary0) (vd : Regidx) :
    FpFree W (executeVFWUNARY0 vm vs2 op vd) := by
  unfold executeVFWUNARY0
  infer_instance

instance (vm : BitVec 1) (vs2 : Regidx) (op : Vfnunary0) (vd : Regidx) :
    FpFree W (executeVFNUNARY0 vm vs2 op vd) := by
  unfold executeVFNUNARY0
  infer_instance

instance (op : Fvvmfunct6) (vm : BitVec 1) (vs2 vs1 vd : Regidx) :
    FpFree W (executeFVVMTYPE op vm vs2 vs1 vd) := by
  unfold executeFVVMTYPE fpEq fpLe fpLt
  cases op <;> infer_instance

instance (op : Rfvvfunct6) (vm : BitVec 1) (vs2 vs1 vd : Regidx) :
    FpFree W (executeRFVVTYPE op vm vs2 vs1 vd) := by
  unfold executeRFVVTYPE processRfvvSingle processRfvvWiden
  cases op <;> infer_instance

end Vectors

/-! ## Clauses with a scalar operand -/

section Scalars

variable [Ready W FRegs]

instance (vs2 rs1 vd : Regidx) : FpFree W (executeVFMERGE vs2 rs1 vd) := by
  unfold executeVFMERGE
  infer_instance

instance (rs1 vd : Regidx) : FpFree W (executeVFMV rs1 vd) := by
  unfold executeVFMV
  infer_instance

instance (rs1 vd : Regidx) : FpFree W (executeVFMVSF rs1 vd) := by
  unfold executeVFMVSF
  infer_instance

omit [Ready W FRegs] [VecClosed W] in
/-- A clause that is illegal unless `c` holds can rely on `c`. -/
theorem fpFree_orIllegal_of {p : State → Bool} {c : Prop} [Decidable c] {k : M Retired}
    (hk : ¬ c → FpFree W k) : FpFree W (orIllegal (fun s => p s || decide c) k) := by
  by_cases hc : c
  · have heq : orIllegal (fun s => p s || decide c) k = illegal := by
      have htrue : (fun s => p s || decide c) = fun _ => true := by
        funext s
        rw [decide_eq_true hc, Bool.or_true]
      rw [htrue]
      rfl
    rw [heq]
    infer_instance
  · have := hk hc
    infer_instance

/-- The width of the elements has been checked before the format is known. -/
instance (vs2 rd : Regidx) : FpFree W (executeVFMVFS vs2 rd) := by
  unfold executeVFMVFS
  refine @Exec.plain_bind _ _ _ _ _ _ _ _ _ _ _ inferInstance (fun rm => ?_)
  refine @Exec.plain_bind _ _ _ _ _ _ _ _ _ _ _ inferInstance (fun sewPow => ?_)
  refine @Exec.plain_bind _ _ _ _ _ _ _ _ _ _ _ inferInstance (fun numElem => ?_)
  refine fpFree_orIllegal_of (fun hsew => ?_)
  have hclause (f : FpFormat) (hf : f.width = 2 ^ sewPow) : FpFree W (do
      let v2 ← readVreg numElem f.width 0 vs2
      wFp f rd (v2 0)
      endVector) := by
    have : Ready W f.Fits := ⟨fun _ => by unfold FpFormat.Fits; omega⟩
    infer_instance
  have := fpFree_assertFailed (W := W) "SEW != 8"
  unfold onFormat
  refine Exec.plain_of_ite (fun h => ?_) (fun _ => ?_)
  · exact hclause .H (by rw [show sewPow = _ from h]; rfl)
  · refine Exec.plain_of_ite (fun h => ?_) (fun _ => ?_)
    · exact hclause .S (by rw [show sewPow = _ from h]; rfl)
    · refine Exec.plain_of_ite (fun h => ?_) (fun _ => inferInstance)
      exact hclause .D (by rw [show sewPow = _ from h]; rfl)

variable [SoftFloat] [Ready W FpBuild]

instance (op : Fvffunct6) (vm : BitVec 1) (vs2 rs1 vd : Regidx) :
    FpFree W (executeFVFTYPE op vm vs2 rs1 vd) := by
  unfold executeFVFTYPE
  cases op <;> infer_instance

instance (op : Fvvmafunct6) (vm : BitVec 1) (vs2 rs1 vd : Regidx) :
    FpFree W (executeFVFMATYPE op vm vs2 rs1 vd) := by
  unfold executeFVFMATYPE
  infer_instance

instance (op : Fwvvfunct6) (vm : BitVec 1) (vs2 rs1 vd : Regidx) :
    FpFree W (executeFWVFTYPE op vm vs2 rs1 vd) := by
  unfold executeFWVFTYPE
  infer_instance

instance (op : Fwvvmafunct6) (vm : BitVec 1) (rs1 vs2 vd : Regidx) :
    FpFree W (executeFWVFMATYPE op vm rs1 vs2 vd) := by
  unfold executeFWVFMATYPE
  infer_instance

instance (op : Fwvfunct6) (vm : BitVec 1) (vs2 rs1 vd : Regidx) :
    FpFree W (executeFWFTYPE op vm vs2 rs1 vd) := by
  unfold executeFWFTYPE
  infer_instance

instance (op : Fvfmfunct6) (vm : BitVec 1) (vs2 rs1 vd : Regidx) :
    FpFree W (executeFVFMTYPE op vm vs2 rs1 vd) := by
  unfold executeFVFMTYPE fpEq fpLe fpLt fpGe fpGt
  cases op <;> infer_instance

end Scalars

/-! ## All clauses -/

/-- The registers that an instruction needs exist. -/
def VextFpInst.Usable : VextFpInst → Prop
  | .VFMVFS .. | .FVFTYPE .. | .FVFMATYPE .. | .FWVFTYPE .. | .FWVFMATYPE .. | .FWFTYPE ..
  | .VFMERGE .. | .VFMV .. | .VFMVSF .. | .FVFMTYPE .. => FRegs
  | _ => FpBuild

/-- **Vector floating-point instructions.** -/
theorem VextFpInst.fpFree [SoftFloat] {i : VextFpInst} (h : W.safe → i.Usable) :
    FpFree W i.execute := by
  unfold VextFpInst.execute
  cases i
  case VFMVFS | FVFTYPE | FVFMATYPE | FWVFTYPE | FWVFMATYPE | FWFTYPE | VFMERGE | VFMV | VFMVSF
      | FVFMTYPE =>
    have : Ready W FRegs := ⟨h⟩
    have : Ready W FpBuild := ⟨fun hs => FRegs.fpBuild (h hs)⟩
    infer_instance
  all_goals
    have : Ready W FpBuild := ⟨h⟩
    infer_instance

end

end SailRiscv
