/-
# Vector instructions and the floating-point registers

The vector instructions other than those of floating-point arithmetic have nothing to do with
the floating-point registers.  What they share is treated first, and then the clauses.
-/
import SailRiscv.VextFree

namespace SailRiscv

open Bits Platform

variable [Platform]

/-! ## The common parts of the clauses -/

section Common

set_option synthInstance.maxSize 4000

variable {W : View} [CoreClosed W] [TrapClosed W]

instance {α : Type} (m : M α) [FpFree W m] : FpFree W (value m) := by
  unfold value
  infer_instance

instance {α : Type} (r : Option α) (k : α → M Retired) [∀ a, FpFree W (k a)] :
    FpFree W (onValue r k) := by
  unfold onValue
  rcases r <;> infer_instance

instance {α : Type} (r : Option α) (k : α → M Retired) [∀ a, FpFree W (k a)] :
    FpFree W (onLoop r k) := by
  unfold onLoop
  rcases r <;> infer_instance

instance (c : State → Bool) (k : M Retired) [Exec.Indep W.swap c] [FpFree W k] :
    FpFree W (orIllegal c k) := by
  unfold orIllegal
  infer_instance

instance (start sewPow : ℕ) : FpFree W (checkStart start sewPow) := by
  unfold checkStart
  infer_instance

instance : FpFree W getStartElement := by
  unfold getStartElement
  infer_instance

instance (numElem : ℕ) (lmul : ℤ) : FpFree W (bodyOf numElem lmul) := by
  unfold bodyOf
  infer_instance

instance {α : Type} (numElem : ℕ) (lmul : ℤ) (vdVal : ℕ → α) (vmVal : ℕ → Bool) :
    FpFree W (initMaskedResult numElem lmul vdVal vmVal) := by
  unfold initMaskedResult
  infer_instance

instance (numElem : ℕ) (lmul : ℤ) (vmVal : ℕ → Bool) :
    FpFree W (initMaskedSource numElem lmul vmVal) := by
  unfold initMaskedSource
  infer_instance

instance (numElem : ℕ) (lmul : ℤ) (vdVal : ℕ → Bool) :
    FpFree W (initMaskedResultCarry numElem lmul vdVal) := by
  unfold initMaskedResultCarry
  infer_instance

instance (numElem : ℕ) (lmul : ℤ) (vdVal vmVal : ℕ → Bool) :
    FpFree W (initMaskedResultCmp numElem lmul vdVal vmVal) := by
  unfold initMaskedResultCmp
  infer_instance

instance {α : Type} (numElem : ℕ) (mask : ℕ → Bool) (result : ℕ → α) (elem : ℕ → M (Option α))
    [∀ i, FpFree W (elem i)] : FpFree W (forActive numElem mask result elem) := by
  unfold forActive
  infer_instance

variable [VecClosed W]

instance (numElem SEW : ℕ) (lmul : ℤ) (vd : Regidx) (vdVal : ℕ → BitVec SEW) (vmVal : ℕ → Bool)
    (elem : ℕ → M (Option (BitVec SEW))) [∀ i, FpFree W (elem i)] :
    FpFree W (writeElems numElem SEW lmul vd vdVal vmVal elem) := by
  unfold writeElems
  infer_instance

instance (numElem : ℕ) (vd : Regidx) (init : M ((ℕ → Bool) × (ℕ → Bool))) (elem : ℕ → Bool)
    [FpFree W init] : FpFree W (writeMaskElems numElem vd init elem) := by
  unfold writeMaskElems
  infer_instance

end Common

/-! ## Configuration -/

section Clauses

set_option synthInstance.maxSize 4000

variable {W : View} [CoreClosed W] [TrapClosed W] [VecClosed W]

instance (rd : Regidx) (v : Xlenbits) : FpFree W (setVl rd v) := by
  have := fpFree_vec (W := W) (f := fun s => { s with vl := v }) (fun _ => rfl) (fun _ _ => rfl)
  unfold setVl
  infer_instance

instance : FpFree W endVset := by
  have := fpFree_vec (W := W) (f := fun s => { s with vstart := 0#16 }) (fun _ => rfl)
    (fun _ _ => rfl)
  unfold endVset
  infer_instance

instance : FpFree W rejectVset := by
  have := fpFree_vec (W := W) (f := fun s => { s with
    vtype := villVtype
    vl := 0#_ }) (fun _ => rfl) (fun _ _ => rfl)
  unfold rejectVset handleIllegalVtype
  infer_instance

instance VsetInst.fpFree (i : VsetInst) : FpFree W i.execute := by
  have hvtype (v : Xlenbits) := fpFree_vec (W := W) (f := fun s => { s with vtype := v })
    (fun _ => rfl) (fun _ _ => rfl)
  have hset (request : M Xlenbits) (hr : FpFree W request) (rs1 rd : Regidx) :
      FpFree W (executeVset request rs1 rd) := by
    unfold executeVset
    infer_instance
  rcases i with ⟨ma, ta, sew, lmul, rs1, rd⟩ | ⟨rs2, rs1, rd⟩ | ⟨ma, ta, sew, lmul, uimm, rd⟩
  · exact hset _ inferInstance _ _
  · exact hset _ inferInstance _ _
  · unfold VsetInst.execute executeVsetivli
    infer_instance

/-! ## Arithmetic -/

instance {β : VConf → Type} (vm : BitVec 1) (vd vs2 : Regidx) (src1 : (c : VConf) → M (β c))
    (elem : (c : VConf) → β c → (v2 old : ℕ → BitVec c.sew) → ℕ → M (Option (BitVec c.sew)))
    [∀ c, FpFree W (src1 c)] [∀ c b v2 old i, FpFree W (elem c b v2 old i)] :
    FpFree W (sameWidth vm vd vs2 src1 elem) := by
  unfold sameWidth
  infer_instance

instance (c : VConf) (overlap : Bool) (idx : M ℕ) (v2 : ℕ → BitVec c.sew) [FpFree W idx] :
    FpFree W (gather c overlap idx v2) := by
  unfold gather
  infer_instance

instance (c : VConf) (overlap : Bool) (offset : ℕ) (v2 old : ℕ → BitVec c.sew) (i : ℕ) :
    FpFree W (slideUp c overlap offset v2 old i) := by
  unfold slideUp
  infer_instance

instance (c : VConf) (offset : ℕ) (v2 : ℕ → BitVec c.sew) (i : ℕ) :
    FpFree W (slideDown c offset v2 i) := by
  unfold slideDown
  infer_instance

instance {m : ℕ} (overlap : Bool) (rs1Val : BitVec m) (v2 : ℕ → BitVec m) (i : ℕ) :
    FpFree W (slide1Up overlap rs1Val v2 i) := by
  unfold slide1Up
  infer_instance

instance {m : ℕ} (n : ℕ) (rs1Val : BitVec m) (v2 : ℕ → BitVec m) (i : ℕ) :
    FpFree W (slide1Down n rs1Val v2 i) := by
  unfold slide1Down
  infer_instance

instance (f : Vvfunct6) (vm : BitVec 1) (vs2 vs1 vd : Regidx) :
    FpFree W (executeVVTYPE f vm vs2 vs1 vd) := by
  unfold executeVVTYPE
  cases f <;> infer_instance

instance (f : Vxfunct6) (vm : BitVec 1) (vs2 vs1 vd : Regidx) :
    FpFree W (executeVXTYPE f vm vs2 vs1 vd) := by
  unfold executeVXTYPE
  cases f <;> infer_instance

instance (f : Vxsgfunct6) (vm : BitVec 1) (vs2 vs1 vd : Regidx) :
    FpFree W (executeVXSG f vm vs2 vs1 vd) := by
  unfold executeVXSG
  cases f <;> infer_instance

instance (f : Mvvfunct6) (vm : BitVec 1) (vs2 vs1 vd : Regidx) :
    FpFree W (executeMVVTYPE f vm vs2 vs1 vd) := by
  unfold executeMVVTYPE
  cases f <;> infer_instance

instance (f : Mvvmafunct6) (vm : BitVec 1) (vs2 vs1 vd : Regidx) :
    FpFree W (executeMVVMATYPE f vm vs2 vs1 vd) := by
  unfold executeMVVMATYPE
  cases f <;> infer_instance

instance (f : Mvxfunct6) (vm : BitVec 1) (vs2 vs1 vd : Regidx) :
    FpFree W (executeMVXTYPE f vm vs2 vs1 vd) := by
  unfold executeMVXTYPE
  cases f <;> infer_instance

instance (f : Mvxmafunct6) (vm : BitVec 1) (vs2 vs1 vd : Regidx) :
    FpFree W (executeMVXMATYPE f vm vs2 vs1 vd) := by
  unfold executeMVXMATYPE
  cases f <;> infer_instance

instance (f : Vifunct6) (vm : BitVec 1) (vs2 : Regidx) (simm : BitVec 5) (vd : Regidx) :
    FpFree W (executeVITYPE f vm vs2 simm vd) := by
  unfold executeVITYPE
  cases f <;> infer_instance

instance (f : Visgfunct6) (vm : BitVec 1) (vs2 : Regidx) (simm : BitVec 5) (vd : Regidx) :
    FpFree W (executeVISG f vm vs2 simm vd) := by
  unfold executeVISG
  cases f <;> infer_instance

instance (vs2 vd : Regidx) (src1 : Src1) [∀ c, FpFree W (src1 c)] :
    FpFree W (executeMerge vs2 vd src1) := by
  unfold executeMerge
  infer_instance

instance (vd : Regidx) (src1 : Src1) [∀ c, FpFree W (src1 c)] : FpFree W (executeMove vd src1) := by
  unfold executeMove
  infer_instance

instance (vs2 vd : Regidx) (simm : BitVec 5) : FpFree W (executeVMVRTYPE vs2 simm vd) := by
  unfold executeVMVRTYPE
  infer_instance

instance (vs2 rd : Regidx) : FpFree W (executeVMVXS vs2 rd) := by
  unfold executeVMVXS
  infer_instance

instance (rs1 vd : Regidx) : FpFree W (executeVMVSX rs1 vd) := by
  unfold executeVMVSX
  infer_instance

instance (vs2 vs1 vd : Regidx) : FpFree W (executeMVVCOMPRESS vs2 vs1 vd) := by
  unfold executeMVVCOMPRESS
  infer_instance

instance {β : VConf → Type} (vm : BitVec 1) (vd vs2 : Regidx) (src1 : (c : VConf) → M (β c))
    (elem : (c : VConf) → β c → (ℕ → BitVec c.widen.sew) → ℕ → M (BitVec c.sew))
    [∀ c, FpFree W (src1 c)] [∀ c b v2 i, FpFree W (elem c b v2 i)] :
    FpFree W (narrowing vm vd vs2 src1 elem) := by
  unfold narrowing
  infer_instance

instance {β γ : VConf → Type} (vm : BitVec 1) (vd : Regidx) (overlap : VConf → Bool)
    (src1 : (c : VConf) → M (β c)) (src2 : (c : VConf) → M (γ c))
    (elem : (c : VConf) → β c → γ c → (ℕ → BitVec c.widen.sew) → ℕ → BitVec c.widen.sew)
    [∀ c, FpFree W (src1 c)] [∀ c, FpFree W (src2 c)] :
    FpFree W (widening vm vd overlap src1 src2 elem) := by
  unfold widening
  infer_instance

instance (k : ℕ) (signed : Bool) (vm : BitVec 1) (vs2 vd : Regidx) :
    FpFree W (extension k signed vm vs2 vd) := by
  unfold extension
  infer_instance

instance (f : Nvsfunct6) (vm : BitVec 1) (vs2 vs1 vd : Regidx) :
    FpFree W (executeNVSTYPE f vm vs2 vs1 vd) := by
  unfold executeNVSTYPE
  cases f <;> infer_instance

instance (f : Nvfunct6) (vm : BitVec 1) (vs2 vs1 vd : Regidx) :
    FpFree W (executeNVTYPE f vm vs2 vs1 vd) := by
  unfold executeNVTYPE
  cases f <;> infer_instance

instance (f : Nxsfunct6) (vm : BitVec 1) (vs2 vs1 vd : Regidx) :
    FpFree W (executeNXSTYPE f vm vs2 vs1 vd) := by
  unfold executeNXSTYPE
  cases f <;> infer_instance

instance (f : Nxfunct6) (vm : BitVec 1) (vs2 vs1 vd : Regidx) :
    FpFree W (executeNXTYPE f vm vs2 vs1 vd) := by
  unfold executeNXTYPE
  cases f <;> infer_instance

instance (f : Nisfunct6) (vm : BitVec 1) (vs2 vs1 vd : Regidx) :
    FpFree W (executeNISTYPE f vm vs2 vs1 vd) := by
  unfold executeNISTYPE
  cases f <;> infer_instance

instance (f : Nifunct6) (vm : BitVec 1) (vs2 vs1 vd : Regidx) :
    FpFree W (executeNITYPE f vm vs2 vs1 vd) := by
  unfold executeNITYPE
  cases f <;> infer_instance

instance VextArithInst.fpFree (i : VextArithInst) : FpFree W i.execute := by
  cases i <;> (unfold VextArithInst.execute)
  all_goals first
    | infer_instance
    | (unfold executeMASKTYPEV; infer_instance)
    | (unfold executeMASKTYPEX; infer_instance)
    | (unfold executeMASKTYPEI; infer_instance)
    | (unfold executeMOVETYPEV; infer_instance)
    | (unfold executeMOVETYPEX; infer_instance)
    | (unfold executeMOVETYPEI; infer_instance)
    | (unfold executeWVVTYPE; infer_instance)
    | (unfold executeWVTYPE; infer_instance)
    | (unfold executeWMVVTYPE; infer_instance)
    | (unfold executeWVXTYPE; infer_instance)
    | (unfold executeWXTYPE; infer_instance)
    | (unfold executeWMVXTYPE; infer_instance)
    | (unfold executeVEXT2TYPE; infer_instance)
    | (unfold executeVEXT4TYPE; infer_instance)
    | (unfold executeVEXT8TYPE; infer_instance)

/-! ## Masks -/

instance (f : Mmfunct6) (vs2 vs1 vd : Regidx) : FpFree W (executeMMTYPE f vs2 vs1 vd) := by
  unfold executeMMTYPE
  infer_instance

instance (vm : BitVec 1) (vs2 rd : Regidx) (result : (ℕ → Bool) → Xlenbits) :
    FpFree W (maskToX vm vs2 rd result) := by
  unfold maskToX
  infer_instance

instance (vm : BitVec 1) (vs2 vd : Regidx) (result : (mask v2 : ℕ → Bool) → ℕ → Bool) :
    FpFree W (maskToMask vm vs2 vd result) := by
  unfold maskToMask
  infer_instance

instance VextMaskInst.fpFree (i : VextMaskInst) : FpFree W i.execute := by
  cases i <;> (unfold VextMaskInst.execute)
  all_goals first
    | infer_instance
    | (unfold executeVCPOP_M; infer_instance)
    | (unfold executeVFIRST_M; infer_instance)
    | (unfold executeVMSBF_M; infer_instance)
    | (unfold executeVMSIF_M; infer_instance)
    | (unfold executeVMSOF_M; infer_instance)
    | (unfold executeVIOTA_M; infer_instance)
    | (unfold executeVID_V; infer_instance)

/-! ## Arithmetic with masks -/

section

variable (vs2 vd : Regidx) (src1 : Src1) [∀ c, FpFree W (src1 c)]

instance (elem : {m : ℕ} → (a b : BitVec m) → ℕ → Bool) :
    FpFree W (carryInOut vs2 vd src1 elem) := by
  unfold carryInOut
  infer_instance

instance (elem : {m : ℕ} → (a b : BitVec m) → ℕ → Bool) :
    FpFree W (carryOutOnly vs2 vd src1 elem) := by
  unfold carryOutOnly
  infer_instance

instance (elem : {m : ℕ} → (a b : BitVec m) → ℕ → BitVec m) :
    FpFree W (carryIn vs2 vd src1 elem) := by
  unfold carryIn
  infer_instance

instance (vm : BitVec 1) (elem : {m : ℕ} → (a b : BitVec m) → Bool) :
    FpFree W (vectorCompare vm vs2 vd src1 elem) := by
  unfold vectorCompare
  infer_instance

end

instance VextVmInst.fpFree (i : VextVmInst) : FpFree W i.execute := by
  cases i <;> (unfold VextVmInst.execute)
  · unfold executeVVMTYPE
    infer_instance
  · unfold executeVVMCTYPE
    infer_instance
  · unfold executeVVMSTYPE
    infer_instance
  · unfold executeVVCMPTYPE
    infer_instance
  · unfold executeVXMTYPE
    infer_instance
  · unfold executeVXMCTYPE
    infer_instance
  · unfold executeVXMSTYPE
    infer_instance
  · unfold executeVXCMPTYPE
    infer_instance
  · unfold executeVIMTYPE
    infer_instance
  · unfold executeVIMCTYPE
    infer_instance
  · unfold executeVIMSTYPE
    infer_instance
  · unfold executeVICMPTYPE
    infer_instance

/-! ## Reductions -/

instance (k : M Retired) [FpFree W k] : FpFree W (unlessEmpty k) := by
  have := indep (W := W) (f := fun s : State => s.vl.toNat == 0) (fun _ _ => rfl)
  unfold unlessEmpty
  infer_instance

instance {m : ℕ} (n numElemVd o : ℕ) (lmul : ℤ) (vm : BitVec 1) (vs1 vd : Regidx)
    (readVs2 : M (ℕ → BitVec m)) (elem : BitVec m → BitVec o → BitVec o) [FpFree W readVs2] :
    FpFree W (reduce n numElemVd o lmul vm vs1 vd readVs2 elem) := by
  unfold reduce
  infer_instance

instance VextRedInst.fpFree (i : VextRedInst) : FpFree W i.execute := by
  rcases i with _ | _
  · unfold VextRedInst.execute executeRIVVTYPE
    infer_instance
  · unfold VextRedInst.execute executeRMVVTYPE
    infer_instance

/-! ## Loads and stores -/

instance {α : Type} (vaddr : Xlenbits) (e : ExceptionType) :
    FpFree W (faultExit vaddr e : M (Option α)) := by
  unfold faultExit
  infer_instance

instance {α : Type} (fault : Xlenbits → ExceptionType → M α) (rs1 : Regidx) (offset : ℤ)
    (bytes : ℕ) (k : BitVec (8 * bytes) → M α) [∀ a e, FpFree W (fault a e)]
    [∀ v, FpFree W (k v)] : FpFree W (loadElem fault rs1 offset bytes k) := by
  unfold loadElem
  infer_instance

instance {α : Type} (fault : Xlenbits → ExceptionType → M α) (rs1 : Regidx) (offset : ℤ)
    (bytes : ℕ) (elem : M (BitVec (8 * bytes))) (k : M α) [∀ a e, FpFree W (fault a e)]
    [FpFree W elem] [FpFree W k] : FpFree W (storeElem fault rs1 offset bytes elem k) := by
  unfold storeElem
  infer_instance

instance (nf bytes : ℕ) : FpFree W (unitOffsets nf bytes) := by
  unfold unitOffsets
  infer_instance

instance (rs2 : Regidx) (bytes : ℕ) : FpFree W (stridedOffsets rs2 bytes) := by
  unfold stridedOffsets
  infer_instance

instance (numElem EEWindex : ℕ) (EMULindex : ℤ) (vs2 : Regidx) (bytes : ℕ) :
    FpFree W (indexedOffsets numElem EEWindex EMULindex vs2 bytes) := by
  unfold indexedOffsets
  infer_instance

instance (nf : ℕ) (vd : Regidx) (bytes : ℕ) (rs1 : Regidx) (EMUL : ℤ) (offset : Offsets) (i : ℕ) :
    FpFree W (loadSegment nf vd bytes rs1 EMUL offset i) := by
  unfold loadSegment
  infer_instance

instance (nf : ℕ) (vm : BitVec 1) (vd : Regidx) (bytes : ℕ) (rs1 : Regidx) (EMUL : ℤ)
    (numElem : ℕ) (offsets : M Offsets) [FpFree W offsets] :
    FpFree W (processLoad nf vm vd bytes rs1 EMUL numElem offsets) := by
  unfold processLoad
  infer_instance

instance (i : ℕ) (vaddr : Xlenbits) (e : ExceptionType) : FpFree W (trimOrFault i vaddr e) := by
  unfold trimOrFault
  infer_instance

instance (nf : ℕ) (vd : Regidx) (bytes : ℕ) (rs1 : Regidx) (EMUL : ℤ) (tailAg mask : Bool)
    (skipped vdSeg : BitVec (nf * (8 * bytes))) (i : ℕ) (trimmed : Bool) :
    FpFree W (loadSegmentFF nf vd bytes rs1 EMUL tailAg mask skipped vdSeg i trimmed) := by
  unfold loadSegmentFF
  infer_instance

instance (nf : ℕ) (vm : BitVec 1) (vd : Regidx) (bytes : ℕ) (rs1 : Regidx) (EMUL : ℤ)
    (numElem : ℕ) : FpFree W (processVlsegff nf vm vd bytes rs1 EMUL numElem) := by
  have := indep (W := W) (f := fun s : State => Vtype.vta.get s.vtype == 1#1) (fun _ _ => rfl)
  unfold processVlsegff
  infer_instance

instance (nf : ℕ) (vs3 : Regidx) (bytes : ℕ) (rs1 : Regidx) (EMUL : ℤ) (offset : Offsets)
    (i : ℕ) : FpFree W (storeSegment nf vs3 bytes rs1 EMUL offset i) := by
  unfold storeSegment
  infer_instance

instance (nf : ℕ) (vm : BitVec 1) (vs3 : Regidx) (bytes : ℕ) (rs1 : Regidx) (EMUL : ℤ)
    (numElem : ℕ) (offsets : M Offsets) [FpFree W offsets] :
    FpFree W (processStore nf vm vs3 bytes rs1 EMUL numElem offsets) := by
  unfold processStore
  infer_instance

instance {β : Type} (nf elemPerReg start : ℕ) (first : ℕ → ℕ → ℕ → M (Option ℕ))
    (field : ℕ → M β) (elem : β → ℕ → ℕ → ℕ → M (Option ℕ)) [∀ f i c, FpFree W (first f i c)]
    [∀ j, FpFree W (field j)] [∀ b j i c, FpFree W (elem b j i c)] :
    FpFree W (wholeRegisters nf elemPerReg start first field elem) := by
  unfold wholeRegisters
  infer_instance

instance (vd : Regidx) (bytes : ℕ) (rs1 : Regidx) (field i curElem : ℕ) :
    FpFree W (vlreElem vd bytes rs1 field i curElem) := by
  unfold vlreElem
  infer_instance

instance (nf : ℕ) (vd : Regidx) (bytes : ℕ) (rs1 : Regidx) (elemPerReg : ℕ) :
    FpFree W (processVlre nf vd bytes rs1 elemPerReg) := by
  unfold processVlre
  infer_instance

instance (bytes : ℕ) (rs1 : Regidx) (elem : M (BitVec (8 * bytes))) (curElem : ℕ)
    [FpFree W elem] : FpFree W (vsreElem bytes rs1 elem curElem) := by
  unfold vsreElem
  infer_instance

instance (nf bytes : ℕ) (rs1 vs3 : Regidx) (elemPerReg : ℕ) :
    FpFree W (processVsre nf bytes rs1 vs3 elemPerReg) := by
  unfold processVsre
  infer_instance

instance (op : Vmlsop) (r rs1 : Regidx) (vals : ℕ → BitVec (8 * 1)) (evl i : ℕ) :
    FpFree W (vmElem op r rs1 vals evl i) := by
  unfold vmElem
  cases op <;> infer_instance

instance (r rs1 : Regidx) (numElem evl : ℕ) (op : Vmlsop) :
    FpFree W (processVm r rs1 numElem evl op) := by
  unfold processVm
  infer_instance

instance (nf : BitVec 3) (width : Vlewidth) (illegalInst : State → ℕ → ℕ → ℤ → Bool)
    (process : ℕ → ℕ → ℤ → ℕ → M Retired)
    [∀ n e l, Exec.Indep W.swap (fun s => illegalInst s n e l)]
    [∀ n b l k, FpFree W (process n b l k)] :
    FpFree W (executeWidth nf width illegalInst process) := by
  unfold executeWidth
  infer_instance

instance (nf : BitVec 3) (width : Vlewidth) (illegalInst : State → ℕ → ℕ → ℤ → ℤ → Bool)
    (process : ℕ → ℕ → ℕ → ℤ → ℤ → ℕ → M Retired)
    [∀ n e l m, Exec.Indep W.swap (fun s => illegalInst s n e l m)]
    [∀ n b c l m k, FpFree W (process n b c l m k)] :
    FpFree W (executeIndexed nf width illegalInst process) := by
  unfold executeIndexed
  infer_instance

instance VextMemInst.fpFree (i : VextMemInst) : FpFree W i.execute := by
  cases i <;> unfold VextMemInst.execute
  · unfold processVlseg
    infer_instance
  · infer_instance
  · unfold processVsseg
    infer_instance
  · unfold processVlsseg
    infer_instance
  · unfold processVssseg
    infer_instance
  · unfold processVlxseg
    infer_instance
  · unfold processVlxseg
    infer_instance
  · unfold processVsxseg
    infer_instance
  · unfold processVsxseg
    infer_instance
  · unfold orIllegalFields
    infer_instance
  · unfold orIllegalFields
    infer_instance
  · unfold executeVMTYPE
    infer_instance

end Clauses

end SailRiscv
