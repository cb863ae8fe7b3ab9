/-
# Vector mask instructions

`riscv_insts_vext_mask.sail`.
-/
import SailRiscv.Insts.VextArith

namespace SailRiscv

open Bits Platform

/-! ## Syntax -/

/-- `mmfunct6`. -/
inductive Mmfunct6 where
  | MM_VMAND | MM_VMNAND | MM_VMANDN | MM_VMXOR | MM_VMOR | MM_VMNOR | MM_VMORN | MM_VMXNOR
  deriving DecidableEq, Repr

/-- The clauses of `ast` for masks. -/
inductive VextMaskInst where
  | MMTYPE (funct6 : Mmfunct6) (vs2 vs1 vd : Regidx)
  | VCPOP_M (vm : BitVec 1) (vs2 rd : Regidx)
  | VFIRST_M (vm : BitVec 1) (vs2 rd : Regidx)
  | VMSBF_M (vm : BitVec 1) (vs2 vd : Regidx)
  | VMSIF_M (vm : BitVec 1) (vs2 vd : Regidx)
  | VMSOF_M (vm : BitVec 1) (vs2 vd : Regidx)
  | VIOTA_M (vm : BitVec 1) (vs2 vd : Regidx)
  | VID_V (vm : BitVec 1) (vd : Regidx)
  deriving DecidableEq, Repr

/-! ## Decoding -/

/-- `encdec_mmfunct6`. -/
def encdecMmfunct6 : List (BitVec 6 × Mmfunct6) :=
  [(0b011001, .MM_VMAND), (0b011101, .MM_VMNAND), (0b011000, .MM_VMANDN), (0b011011, .MM_VMXOR),
   (0b011010, .MM_VMOR), (0b011110, .MM_VMNOR), (0b011100, .MM_VMORN), (0b011111, .MM_VMXNOR)]

variable [Platform]

/-- The clauses of `encdec` for masks, read backwards. -/
def VextMaskInst.decode (s : State) (w : BitVec 32) : Option VextMaskInst :=
  let opmvv := bits w 0 7 == 0b1010111#7 && bits w 12 3 == 0b010#3 && extensionEnabled s .V
  let vm := vmOf w
  let f6 := funct6Of w
  let (vs2, vs1, vd) := (rs2Of w, rs1Of w, rdOf w)
  firstClause [
    mapped (opmvv && vm == 0b1#1) encdecMmfunct6 f6 (.MMTYPE · vs2 vs1 vd),
    clause (opmvv && f6 == 0b010000#6 && vs1 == 0b10000#5) (.VCPOP_M vm vs2 vd),
    clause (opmvv && f6 == 0b010000#6 && vs1 == 0b10001#5) (.VFIRST_M vm vs2 vd),
    clause (opmvv && f6 == 0b010100#6 && vs1 == 0b00001#5) (.VMSBF_M vm vs2 vd),
    clause (opmvv && f6 == 0b010100#6 && vs1 == 0b00011#5) (.VMSIF_M vm vs2 vd),
    clause (opmvv && f6 == 0b010100#6 && vs1 == 0b00010#5) (.VMSOF_M vm vs2 vd),
    clause (opmvv && f6 == 0b010100#6 && vs1 == 0b10000#5) (.VIOTA_M vm vs2 vd),
    clause (opmvv && f6 == 0b010100#6 && vs2 == 0b00000#5 && vs1 == 0b10001#5) (.VID_V vm vd)]

/-! ## Logic on masks -/

/-- The element that `MMTYPE` computes. -/
def maskLogic (funct6 : Mmfunct6) (v2 v1 : Bool) : Bool :=
  match funct6 with
  | .MM_VMAND => v2 && v1
  | .MM_VMNAND => !(v2 && v1)
  | .MM_VMANDN => v2 && !v1
  | .MM_VMXOR => v2 != v1
  | .MM_VMOR => v2 || v1
  | .MM_VMNOR => !(v2 || v1)
  | .MM_VMORN => v2 || !v1
  | .MM_VMXNOR => v2 == v1

/-- `execute MMTYPE`. -/
def executeMMTYPE (funct6 : Mmfunct6) (vs2 vs1 vd : Regidx) : M Retired := do
  let _ ← getSew
  let _ ← getLmulPow
  orIllegal illegalVdUnmasked do
    let v1 ← readVmask VLEN 0#1 vs1
    let v2 ← readVmask VLEN 0#1 vs2
    let old ← readVmask VLEN 0#1 vd
    writeMaskElems VLEN vd (initMaskedResultCarry VLEN 0 old)
      (fun i => maskLogic funct6 (v2 i) (v1 i))

/-! ## Numbers of elements of a mask -/

/-- The clauses that compute an `X` register from the active elements of a mask. -/
def maskToX (vm : BitVec 1) (vs2 rd : Regidx) (result : (ℕ → Bool) → Xlenbits) : M Retired := do
  let _ ← getSew
  let _ ← getLmulPow
  orIllegal (fun s => illegalVdUnmasked s || !assertVstart s 0) do
    let vmVal ← readVmask VLEN vm 0b00000#5
    let v2 ← readVmask VLEN 0#1 vs2
    let init ← initMaskedResultCmp VLEN 0 v2 vmVal
    wX rd (result (fun i => init.2 i && v2 i))
    endVector

/-- How many of the first `n` elements are set. -/
def countSet (n : ℕ) (v : ℕ → Bool) : ℕ := forUp n 0 fun i count => if v i then count + 1 else count

/-- The first of the `n` first elements that is set, or -1. -/
def firstSet (n : ℕ) (v : ℕ → Bool) : ℤ :=
  forUp n (-1) fun i index => if index == -1 && v i then i else index

/-- `execute VCPOP_M`. -/
def executeVCPOP_M (vm : BitVec 1) (vs2 rd : Regidx) : M Retired :=
  maskToX vm vs2 rd fun v => toBits xlen (countSet VLEN v)

/-- `execute VFIRST_M`. -/
def executeVFIRST_M (vm : BitVec 1) (vs2 rd : Regidx) : M Retired :=
  maskToX vm vs2 rd fun v => toBits xlen (firstSet VLEN v)

/-! ## Masks of the first element that is set -/

/-- The clauses that compute a mask from a mask; `result mask v2 i` is element `i`. -/
def maskToMask (vm : BitVec 1) (vs2 vd : Regidx) (result : (mask v2 : ℕ → Bool) → ℕ → Bool) :
    M Retired := do
  let _ ← getSew
  let _ ← getLmulPow
  orIllegal (fun s => illegalNormal s vd vm || !assertVstart s 0 || vd == vs2) do
    let vmVal ← readVmask VLEN vm 0b00000#5
    let v2 ← readVmask VLEN 0#1 vs2
    let old ← readVmask VLEN 0#1 vd
    let init ← initMaskedResultCmp VLEN 0 old vmVal
    writeVmask VLEN vd (fun i => if init.2 i then result init.2 v2 i else init.1 i)
    endVector

/-- `found_elem` after the first `n` elements: one of the active ones is set. -/
def foundElem (mask v2 : ℕ → Bool) (n : ℕ) : Bool :=
  forUp n false fun i found => found || (mask i && v2 i)

/-- `execute VMSBF_M`: no element up to this one is set. -/
def executeVMSBF_M (vm : BitVec 1) (vs2 vd : Regidx) : M Retired :=
  maskToMask vm vs2 vd fun mask v2 i => !foundElem mask v2 (i + 1)

/-- `execute VMSIF_M`: no element before this one is set. -/
def executeVMSIF_M (vm : BitVec 1) (vs2 vd : Regidx) : M Retired :=
  maskToMask vm vs2 vd fun mask v2 i => !foundElem mask v2 i

/-- `execute VMSOF_M`: the first element that is set. -/
def executeVMSOF_M (vm : BitVec 1) (vs2 vd : Regidx) : M Retired :=
  maskToMask vm vs2 vd fun mask v2 i => v2 i && !foundElem mask v2 i

/-! ## Indices -/

/-- `execute VIOTA_M`: the number of active elements before this one that are set. -/
def executeVIOTA_M (vm : BitVec 1) (vs2 vd : Regidx) : M Retired := do
  let c ← vconf
  orIllegal (fun s => illegalNormal s vd vm || !assertVstart s 0 || vd == vs2) do
    let vmVal ← readVmask c.n vm 0b00000#5
    let v2 ← readVmask c.n 0#1 vs2
    let old ← c.group vd
    let init ← initMaskedResult c.n c.lmul old vmVal
    writeVreg c.n c.sew c.lmul vd fun i =>
      if init.2 i then toBits c.sew (countSet i fun j => init.2 j && v2 j) else init.1 i
    endVector

/-- `execute VID_V`. -/
def executeVID_V (vm : BitVec 1) (vd : Regidx) : M Retired := do
  let c ← vconf
  orIllegal (fun s => illegalNormal s vd vm) do
    let vmVal ← readVmask c.n vm 0b00000#5
    let old ← c.group vd
    writeElems c.n c.sew c.lmul vd old vmVal fun i => just (toBits c.sew i)

/-! ## Execution -/

/-- `execute` of the clauses for masks. -/
def VextMaskInst.execute : VextMaskInst → M Retired
  | .MMTYPE f vs2 vs1 vd => executeMMTYPE f vs2 vs1 vd
  | .VCPOP_M vm vs2 rd => executeVCPOP_M vm vs2 rd
  | .VFIRST_M vm vs2 rd => executeVFIRST_M vm vs2 rd
  | .VMSBF_M vm vs2 vd => executeVMSBF_M vm vs2 vd
  | .VMSIF_M vm vs2 vd => executeVMSIF_M vm vs2 vd
  | .VMSOF_M vm vs2 vd => executeVMSOF_M vm vs2 vd
  | .VIOTA_M vm vs2 vd => executeVIOTA_M vm vs2 vd
  | .VID_V vm vd => executeVID_V vm vd

end SailRiscv
