/-
# Vector floating-point instructions

`riscv_insts_vext_fp.sail`, `riscv_insts_vext_fp_vm.sail` and `riscv_insts_vext_fp_red.sail`.
The loops of the source match on the width of the elements; here it is the format that the
check of the clause leaves.  The branches of the source for elements of 8 bits are not reached,
as this check refuses them.
-/
import SailRiscv.VextFpUtils
import SailRiscv.Insts.VextArith
import SailRiscv.Insts.VextRed

namespace SailRiscv

open Bits Platform

/-! ## Syntax -/

/-- `fvvfunct6`. -/
inductive Fvvfunct6 where
  | FVV_VADD | FVV_VSUB | FVV_VMIN | FVV_VMAX | FVV_VSGNJ | FVV_VSGNJN | FVV_VSGNJX
  | FVV_VDIV | FVV_VMUL
  deriving DecidableEq, Repr

/-- `fvvmafunct6`, and `fvfmafunct6` with the prefix `VF`. -/
inductive Fvvmafunct6 where
  | FVV_VMADD | FVV_VNMADD | FVV_VMSUB | FVV_VNMSUB | FVV_VMACC | FVV_VNMACC | FVV_VMSAC
  | FVV_VNMSAC
  deriving DecidableEq, Repr

/-- `fwvvfunct6`, and `fwvffunct6` with the prefix `FWVF`. -/
inductive Fwvvfunct6 where
  | FWVV_VADD | FWVV_VSUB | FWVV_VMUL
  deriving DecidableEq, Repr

/-- `fwvvmafunct6`, and `fwvfmafunct6` with the prefix `FWVF`. -/
inductive Fwvvmafunct6 where
  | FWVV_VMACC | FWVV_VNMACC | FWVV_VMSAC | FWVV_VNMSAC
  deriving DecidableEq, Repr

/-- `fwvfunct6`, and `fwffunct6` with the prefix `FWF`. -/
inductive Fwvfunct6 where
  | FWV_VADD | FWV_VSUB
  deriving DecidableEq, Repr

/-- `vfunary0`. -/
inductive Vfunary0 where
  | FV_CVT_XU_F | FV_CVT_X_F | FV_CVT_F_XU | FV_CVT_F_X | FV_CVT_RTZ_XU_F | FV_CVT_RTZ_X_F
  deriving DecidableEq, Repr

/-- `vfwunary0`. -/
inductive Vfwunary0 where
  | FWV_CVT_XU_F | FWV_CVT_X_F | FWV_CVT_F_XU | FWV_CVT_F_X | FWV_CVT_F_F | FWV_CVT_RTZ_XU_F
  | FWV_CVT_RTZ_X_F
  deriving DecidableEq, Repr

/-- `vfnunary0`. -/
inductive Vfnunary0 where
  | FNV_CVT_XU_F | FNV_CVT_X_F | FNV_CVT_F_XU | FNV_CVT_F_X | FNV_CVT_F_F | FNV_CVT_ROD_F_F
  | FNV_CVT_RTZ_XU_F | FNV_CVT_RTZ_X_F
  deriving DecidableEq, Repr

/-- `vfunary1`. -/
inductive Vfunary1 where
  | FVV_VSQRT | FVV_VRSQRT7 | FVV_VREC7 | FVV_VCLASS
  deriving DecidableEq, Repr

/-- `fvffunct6`. -/
inductive Fvffunct6 where
  | VF_VADD | VF_VSUB | VF_VMIN | VF_VMAX | VF_VSGNJ | VF_VSGNJN | VF_VSGNJX | VF_VSLIDE1UP
  | VF_VSLIDE1DOWN | VF_VDIV | VF_VRDIV | VF_VMUL | VF_VRSUB
  deriving DecidableEq, Repr

/-- `fvvmfunct6`. -/
inductive Fvvmfunct6 where
  | FVVM_VMFEQ | FVVM_VMFLE | FVVM_VMFLT | FVVM_VMFNE
  deriving DecidableEq, Repr

/-- `fvfmfunct6`. -/
inductive Fvfmfunct6 where
  | VFM_VMFEQ | VFM_VMFLE | VFM_VMFLT | VFM_VMFNE | VFM_VMFGT | VFM_VMFGE
  deriving DecidableEq, Repr

/-- `rfvvfunct6`. -/
inductive Rfvvfunct6 where
  | FVV_VFREDOSUM | FVV_VFREDUSUM | FVV_VFREDMAX | FVV_VFREDMIN | FVV_VFWREDOSUM
  | FVV_VFWREDUSUM
  deriving DecidableEq, Repr

/-- The clauses of `ast` for vector floating-point instructions. -/
inductive VextFpInst where
  | FVVTYPE (funct6 : Fvvfunct6) (vm : BitVec 1) (vs2 vs1 vd : Regidx)
  | FVVMATYPE (funct6 : Fvvmafunct6) (vm : BitVec 1) (vs2 vs1 vd : Regidx)
  | FWVVTYPE (funct6 : Fwvvfunct6) (vm : BitVec 1) (vs2 vs1 vd : Regidx)
  | FWVVMATYPE (funct6 : Fwvvmafunct6) (vm : BitVec 1) (vs1 vs2 vd : Regidx)
  | FWVTYPE (funct6 : Fwvfunct6) (vm : BitVec 1) (vs2 vs1 vd : Regidx)
  | VFUNARY0 (vm : BitVec 1) (vs2 : Regidx) (vfunary0 : Vfunary0) (vd : Regidx)
  | VFWUNARY0 (vm : BitVec 1) (vs2 : Regidx) (vfwunary0 : Vfwunary0) (vd : Regidx)
  | VFNUNARY0 (vm : BitVec 1) (vs2 : Regidx) (vfnunary0 : Vfnunary0) (vd : Regidx)
  | VFUNARY1 (vm : BitVec 1) (vs2 : Regidx) (vfunary1 : Vfunary1) (vd : Regidx)
  | VFMVFS (vs2 rd : Regidx)
  | FVFTYPE (funct6 : Fvffunct6) (vm : BitVec 1) (vs2 rs1 vd : Regidx)
  | FVFMATYPE (funct6 : Fvvmafunct6) (vm : BitVec 1) (vs2 rs1 vd : Regidx)
  | FWVFTYPE (funct6 : Fwvvfunct6) (vm : BitVec 1) (vs2 rs1 vd : Regidx)
  | FWVFMATYPE (funct6 : Fwvvmafunct6) (vm : BitVec 1) (rs1 vs2 vd : Regidx)
  | FWFTYPE (funct6 : Fwvfunct6) (vm : BitVec 1) (vs2 rs1 vd : Regidx)
  | VFMERGE (vs2 rs1 vd : Regidx)
  | VFMV (rs1 vd : Regidx)
  | VFMVSF (rs1 vd : Regidx)
  | FVVMTYPE (funct6 : Fvvmfunct6) (vm : BitVec 1) (vs2 vs1 vd : Regidx)
  | FVFMTYPE (funct6 : Fvfmfunct6) (vm : BitVec 1) (vs2 rs1 vd : Regidx)
  | RFVVTYPE (funct6 : Rfvvfunct6) (vm : BitVec 1) (vs2 vs1 vd : Regidx)
  deriving DecidableEq, Repr

/-! ## Decoding -/

/-- `encdec_fvvfunct6`. -/
def encdecFvvfunct6 : List (BitVec 6 × Fvvfunct6) :=
  [(0b000000, .FVV_VADD), (0b000010, .FVV_VSUB), (0b000100, .FVV_VMIN), (0b000110, .FVV_VMAX),
   (0b001000, .FVV_VSGNJ), (0b001001, .FVV_VSGNJN), (0b001010, .FVV_VSGNJX),
   (0b100000, .FVV_VDIV), (0b100100, .FVV_VMUL)]

/-- `encdec_fvvmafunct6` and `encdec_fvfmafunct6`. -/
def encdecFvvmafunct6 : List (BitVec 6 × Fvvmafunct6) :=
  [(0b101000, .FVV_VMADD), (0b101001, .FVV_VNMADD), (0b101010, .FVV_VMSUB),
   (0b101011, .FVV_VNMSUB), (0b101100, .FVV_VMACC), (0b101101, .FVV_VNMACC),
   (0b101110, .FVV_VMSAC), (0b101111, .FVV_VNMSAC)]

/-- `encdec_fwvvfunct6` and `encdec_fwvffunct6`. -/
def encdecFwvvfunct6 : List (BitVec 6 × Fwvvfunct6) :=
  [(0b110000, .FWVV_VADD), (0b110010, .FWVV_VSUB), (0b111000, .FWVV_VMUL)]

/-- `encdec_fwvvmafunct6` and `encdec_fwvfmafunct6`. -/
def encdecFwvvmafunct6 : List (BitVec 6 × Fwvvmafunct6) :=
  [(0b111100, .FWVV_VMACC), (0b111101, .FWVV_VNMACC), (0b111110, .FWVV_VMSAC),
   (0b111111, .FWVV_VNMSAC)]

/-- `encdec_fwvfunct6` and `encdec_fwffunct6`. -/
def encdecFwvfunct6 : List (BitVec 6 × Fwvfunct6) :=
  [(0b110100, .FWV_VADD), (0b110110, .FWV_VSUB)]

/-- `encdec_vfunary0_vs1`. -/
def encdecVfunary0 : List (BitVec 5 × Vfunary0) :=
  [(0b00000, .FV_CVT_XU_F), (0b00001, .FV_CVT_X_F), (0b00010, .FV_CVT_F_XU),
   (0b00011, .FV_CVT_F_X), (0b00110, .FV_CVT_RTZ_XU_F), (0b00111, .FV_CVT_RTZ_X_F)]

/-- `encdec_vfwunary0_vs1`. -/
def encdecVfwunary0 : List (BitVec 5 × Vfwunary0) :=
  [(0b01000, .FWV_CVT_XU_F), (0b01001, .FWV_CVT_X_F), (0b01010, .FWV_CVT_F_XU),
   (0b01011, .FWV_CVT_F_X), (0b01100, .FWV_CVT_F_F), (0b01110, .FWV_CVT_RTZ_XU_F),
   (0b01111, .FWV_CVT_RTZ_X_F)]

/-- `encdec_vfnunary0_vs1`. -/
def encdecVfnunary0 : List (BitVec 5 × Vfnunary0) :=
  [(0b10000, .FNV_CVT_XU_F), (0b10001, .FNV_CVT_X_F), (0b10010, .FNV_CVT_F_XU),
   (0b10011, .FNV_CVT_F_X), (0b10100, .FNV_CVT_F_F), (0b10101, .FNV_CVT_ROD_F_F),
   (0b10110, .FNV_CVT_RTZ_XU_F), (0b10111, .FNV_CVT_RTZ_X_F)]

/-- `encdec_vfunary1_vs1`. -/
def encdecVfunary1 : List (BitVec 5 × Vfunary1) :=
  [(0b00000, .FVV_VSQRT), (0b00100, .FVV_VRSQRT7), (0b00101, .FVV_VREC7), (0b10000, .FVV_VCLASS)]

/-- `encdec_fvffunct6`. -/
def encdecFvffunct6 : List (BitVec 6 × Fvffunct6) :=
  [(0b000000, .VF_VADD), (0b000010, .VF_VSUB), (0b000100, .VF_VMIN), (0b000110, .VF_VMAX),
   (0b001000, .VF_VSGNJ), (0b001001, .VF_VSGNJN), (0b001010, .VF_VSGNJX),
   (0b001110, .VF_VSLIDE1UP), (0b001111, .VF_VSLIDE1DOWN), (0b100000, .VF_VDIV),
   (0b100001, .VF_VRDIV), (0b100100, .VF_VMUL), (0b100111, .VF_VRSUB)]

/-- `encdec_fvvmfunct6`. -/
def encdecFvvmfunct6 : List (BitVec 6 × Fvvmfunct6) :=
  [(0b011000, .FVVM_VMFEQ), (0b011001, .FVVM_VMFLE), (0b011011, .FVVM_VMFLT),
   (0b011100, .FVVM_VMFNE)]

/-- `encdec_fvfmfunct6`. -/
def encdecFvfmfunct6 : List (BitVec 6 × Fvfmfunct6) :=
  [(0b011000, .VFM_VMFEQ), (0b011001, .VFM_VMFLE), (0b011011, .VFM_VMFLT),
   (0b011100, .VFM_VMFNE), (0b011101, .VFM_VMFGT), (0b011111, .VFM_VMFGE)]

/-- `encdec_rfvvfunct6`. -/
def encdecRfvvfunct6 : List (BitVec 6 × Rfvvfunct6) :=
  [(0b000011, .FVV_VFREDOSUM), (0b000001, .FVV_VFREDUSUM), (0b000111, .FVV_VFREDMAX),
   (0b000101, .FVV_VFREDMIN), (0b110011, .FVV_VFWREDOSUM), (0b110001, .FVV_VFWREDUSUM)]

variable [Platform]

/-- The clauses of `encdec` with a vector operand, read backwards. -/
def VextFpInst.decodeVV (w : BitVec 32) : Option VextFpInst :=
  let funct6 := funct6Of w
  let vm := vmOf w
  let vs2 := rs2Of w
  let vs1 := rs1Of w
  let vd := rdOf w
  firstClause [
    mapped true encdecFvvfunct6 funct6 (.FVVTYPE · vm vs2 vs1 vd),
    mapped true encdecFvvmafunct6 funct6 (.FVVMATYPE · vm vs2 vs1 vd),
    mapped true encdecFwvvfunct6 funct6 (.FWVVTYPE · vm vs2 vs1 vd),
    -- the source has the registers of this clause in the other order
    mapped true encdecFwvvmafunct6 funct6 (.FWVVMATYPE · vm vs2 vs1 vd),
    mapped true encdecFwvfunct6 funct6 (.FWVTYPE · vm vs2 vs1 vd),
    mapped (funct6 == 0b010010#6) encdecVfunary0 vs1 (.VFUNARY0 vm vs2 · vd),
    mapped (funct6 == 0b010010#6) encdecVfwunary0 vs1 (.VFWUNARY0 vm vs2 · vd),
    mapped (funct6 == 0b010010#6) encdecVfnunary0 vs1 (.VFNUNARY0 vm vs2 · vd),
    mapped (funct6 == 0b010011#6) encdecVfunary1 vs1 (.VFUNARY1 vm vs2 · vd),
    clause (funct6 == 0b010000#6 && vm == 1#1 && vs1 == 0b00000#5) (.VFMVFS vs2 vd),
    mapped true encdecFvvmfunct6 funct6 (.FVVMTYPE · vm vs2 vs1 vd),
    mapped true encdecRfvvfunct6 funct6 (.RFVVTYPE · vm vs2 vs1 vd)]

/-- The clauses of `encdec` with a scalar operand, read backwards. -/
def VextFpInst.decodeVF (w : BitVec 32) : Option VextFpInst :=
  let funct6 := funct6Of w
  let vm := vmOf w
  let vs2 := rs2Of w
  let rs1 := rs1Of w
  let vd := rdOf w
  firstClause [
    mapped true encdecFvffunct6 funct6 (.FVFTYPE · vm vs2 rs1 vd),
    mapped true encdecFvvmafunct6 funct6 (.FVFMATYPE · vm vs2 rs1 vd),
    mapped true encdecFwvvfunct6 funct6 (.FWVFTYPE · vm vs2 rs1 vd),
    mapped true encdecFwvvmafunct6 funct6 (.FWVFMATYPE · vm rs1 vs2 vd),
    mapped true encdecFwvfunct6 funct6 (.FWFTYPE · vm vs2 rs1 vd),
    clause (funct6 == 0b010111#6 && vm == 0#1) (.VFMERGE vs2 rs1 vd),
    clause (funct6 == 0b010111#6 && vm == 1#1 && vs2 == 0b00000#5) (.VFMV rs1 vd),
    clause (funct6 == 0b010000#6 && vm == 1#1 && vs2 == 0b00000#5) (.VFMVSF rs1 vd),
    mapped true encdecFvfmfunct6 funct6 (.FVFMTYPE · vm vs2 rs1 vd)]

/-- The clauses of `encdec` for vector floating-point instructions, read backwards. -/
def VextFpInst.decode (s : State) (w : BitVec 32) : Option VextFpInst :=
  if bits w 0 7 == 0b1010111#7 && extensionEnabled s .V then
    if bits w 12 3 == 0b001#3 then VextFpInst.decodeVV w
    else if bits w 12 3 == 0b101#3 then VextFpInst.decodeVF w
    else none
  else none

/-! ## Clauses of one width -/

/-- A register group of elements of the format `f`. -/
def VConf.fgroup (c : VConf) (f : FpFormat) (r : Regidx) : M (ℕ → BitVec f.width) :=
  readVreg c.n f.width c.lmul r

/-- A register group of elements of twice the width of the format `f`. -/
def VConf.fgroupWiden (c : VConf) (f : FpFormat) (r : Regidx) : M (ℕ → BitVec f.widen.width) :=
  readVreg c.n f.widen.width c.widen.lmul r

/-- The clauses with one width of elements. -/
def fpSameWidth {β : FpFormat → Type} (vm : BitVec 1) (vd vs2 : Regidx)
    (src1 : VConf → (f : FpFormat) → M (β f))
    (elem : VConf → BitVec 3 → (f : FpFormat) → β f → (v2 old : ℕ → BitVec f.width) → ℕ →
      M (Option (BitVec f.width))) : M Retired := do
  let rm ← getFrm
  let c ← vconf
  orIllegal (fun s => illegalFpNormal s vd vm c.sew rm) <|
    onFormat c fun f => do
      let vmVal ← readVmask c.n vm 0b00000#5
      let v1 ← src1 c f
      let v2 ← c.fgroup f vs2
      let old ← c.fgroup f vd
      writeElems c.n f.width c.lmul vd old vmVal (elem c rm f v1 v2 old)

section Sign

variable {f : FpFormat}

/-- `VSGNJ`: the sign of `b` and the rest of `a`. -/
def vsgnj (a b : BitVec f.width) : BitVec f.width := fmake (fsign b) (fexp a) (fmant a)

/-- `VSGNJN`. -/
def vsgnjn (a b : BitVec f.width) : BitVec f.width := fmake (0b1#1 ^^^ fsign b) (fexp a) (fmant a)

/-- `VSGNJX`. -/
def vsgnjx (a b : BitVec f.width) : BitVec f.width :=
  fmake (fsign a ^^^ fsign b) (fexp a) (fmant a)

end Sign

variable [SoftFloat]

/-- `execute FVVTYPE`. -/
def executeFVVTYPE (funct6 : Fvvfunct6) (vm : BitVec 1) (vs2 vs1 vd : Regidx) : M Retired :=
  fpSameWidth vm vd vs2 (fun c f => c.fgroup f vs1) fun _ rm _ v1 v2 _ i =>
    match funct6 with
    | .FVV_VADD => value (fpAdd rm (v2 i) (v1 i))
    | .FVV_VSUB => value (fpSub rm (v2 i) (v1 i))
    | .FVV_VMIN => value (fpMin (v2 i) (v1 i))
    | .FVV_VMAX => value (fpMax (v2 i) (v1 i))
    | .FVV_VMUL => value (fpMul rm (v2 i) (v1 i))
    | .FVV_VDIV => value (fpDiv rm (v2 i) (v1 i))
    | .FVV_VSGNJ => just (vsgnj (v2 i) (v1 i))
    | .FVV_VSGNJN => just (vsgnjn (v2 i) (v1 i))
    | .FVV_VSGNJX => just (vsgnjx (v2 i) (v1 i))

/-- The element of `FVVMATYPE` and `FVFMATYPE`: `a` is the first operand, `b` the element of
`vs2` and `d` that of `vd`. -/
def Fvvmafunct6.elem {f : FpFormat} (funct6 : Fvvmafunct6) (rm : BitVec 3)
    (a b d : BitVec f.width) : M (BitVec f.width) :=
  match funct6 with
  | .FVV_VMACC => fpMuladd rm a b d
  | .FVV_VNMACC => fpNmulsub rm a b d
  | .FVV_VMSAC => fpMulsub rm a b d
  | .FVV_VNMSAC => fpNmuladd rm a b d
  | .FVV_VMADD => fpMuladd rm a d b
  | .FVV_VNMADD => fpNmulsub rm a d b
  | .FVV_VMSUB => fpMulsub rm a d b
  | .FVV_VNMSUB => fpNmuladd rm a d b

/-- `execute FVVMATYPE`. -/
def executeFVVMATYPE (funct6 : Fvvmafunct6) (vm : BitVec 1) (vs2 vs1 vd : Regidx) : M Retired :=
  fpSameWidth vm vd vs2 (fun c f => c.fgroup f vs1) fun _ rm _ v1 v2 old i =>
    value (funct6.elem rm (v1 i) (v2 i) (old i))

/-- `execute FVFTYPE`. -/
def executeFVFTYPE (funct6 : Fvffunct6) (vm : BitVec 1) (vs2 rs1 vd : Regidx) : M Retired :=
  fpSameWidth vm vd vs2 (fun _ f => getScalarFp rs1 f) fun c rm _ rs1Val v2 _ i =>
    match funct6 with
    | .VF_VADD => value (fpAdd rm (v2 i) rs1Val)
    | .VF_VSUB => value (fpSub rm (v2 i) rs1Val)
    | .VF_VRSUB => value (fpSub rm rs1Val (v2 i))
    | .VF_VMIN => value (fpMin (v2 i) rs1Val)
    | .VF_VMAX => value (fpMax (v2 i) rs1Val)
    | .VF_VMUL => value (fpMul rm (v2 i) rs1Val)
    | .VF_VDIV => value (fpDiv rm (v2 i) rs1Val)
    | .VF_VRDIV => value (fpDiv rm rs1Val (v2 i))
    | .VF_VSGNJ => just (vsgnj (v2 i) rs1Val)
    | .VF_VSGNJN => just (vsgnjn (v2 i) rs1Val)
    | .VF_VSGNJX => just (vsgnjx (v2 i) rs1Val)
    | .VF_VSLIDE1UP => slide1Up (vs2 == vd) rs1Val v2 i
    | .VF_VSLIDE1DOWN => slide1Down c.n rs1Val v2 i

/-- `execute FVFMATYPE`. -/
def executeFVFMATYPE (funct6 : Fvvmafunct6) (vm : BitVec 1) (vs2 rs1 vd : Regidx) : M Retired :=
  fpSameWidth vm vd vs2 (fun _ f => getScalarFp rs1 f) fun _ rm _ rs1Val v2 old i =>
    value (funct6.elem rm rs1Val (v2 i) (old i))

/-- `execute VFUNARY0`. -/
def executeVFUNARY0 (vm : BitVec 1) (vs2 : Regidx) (vfunary0 : Vfunary0) (vd : Regidx) :
    M Retired :=
  fpSameWidth vm vd vs2 (fun _ _ => pure ()) fun _ rm f _ v2 _ i =>
    match vfunary0 with
    | .FV_CVT_XU_F => value (accrued (vecToUi f f.width rm (v2 i)))
    | .FV_CVT_X_F => value (accrued (vecToI f f.width rm (v2 i)))
    | .FV_CVT_F_XU => value (accrued (vecOfUi f rm (v2 i)))
    | .FV_CVT_F_X => value (accrued (vecOfI f rm (v2 i)))
    | .FV_CVT_RTZ_XU_F => value (accrued (vecToUi f f.width 0b001#3 (v2 i)))
    | .FV_CVT_RTZ_X_F => value (accrued (vecToI f f.width 0b001#3 (v2 i)))

/-- `execute VFUNARY1`. -/
def executeVFUNARY1 (vm : BitVec 1) (vs2 : Regidx) (vfunary1 : Vfunary1) (vd : Regidx) :
    M Retired :=
  fpSameWidth vm vd vs2 (fun _ _ => pure ()) fun _ rm f _ v2 _ i =>
    match vfunary1 with
    | .FVV_VSQRT => value (accrued (SoftFloat.sqrt f rm (v2 i)))
    | .FVV_VRSQRT7 => value (accrued (rsqrte7 (v2 i)))
    | .FVV_VREC7 => value (accrued (recip7e rm (v2 i)))
    | .FVV_VCLASS => just ((fclassResult (v2 i)).setWidth f.width)

/-! ## Widening and narrowing clauses -/

/-- The clauses with a result of twice the width, with the checks `overlap` on the operands of
the width in force. -/
def fpWidening {β γ : FpFormat → Type} (vm : BitVec 1) (vd : Regidx) (overlap : VConf → Bool)
    (src1 : VConf → (f : FpFormat) → M (β f)) (src2 : VConf → (f : FpFormat) → M (γ f))
    (elem : BitVec 3 → (f : FpFormat) → β f → γ f → (old : ℕ → BitVec f.widen.width) → ℕ →
      M (BitVec f.widen.width)) : M Retired := do
  let rm ← getFrm
  let c ← vconf
  orIllegal (fun s => illegalFpVariableWidth s vd vm c.sew rm c.widen.sew c.widen.lmul
      || !overlap c) <|
    onNarrowFormat c fun f => do
      let vmVal ← readVmask c.n vm 0b00000#5
      let old ← c.fgroupWiden f vd
      let v1 ← src1 c f
      let v2 ← src2 c f
      writeElems c.n f.widen.width c.widen.lmul vd old vmVal
        (fun i => value (elem rm f v1 v2 old i))

/-- The element of `FWVVTYPE` and `FWVFTYPE`. -/
def Fwvvfunct6.elem {f : FpFormat} (funct6 : Fwvvfunct6) (rm : BitVec 3) (a b : BitVec f.width) :
    M (BitVec f.widen.width) := do
  let a ← fpWiden a
  let b ← fpWiden b
  match funct6 with
  | .FWVV_VADD => fpAdd rm a b
  | .FWVV_VSUB => fpSub rm a b
  | .FWVV_VMUL => fpMul rm a b

/-- `execute FWVVTYPE`. -/
def executeFWVVTYPE (funct6 : Fwvvfunct6) (vm : BitVec 1) (vs2 vs1 vd : Regidx) : M Retired :=
  fpWidening vm vd (fun c => overlapWiden c vs1 vd && overlapWiden c vs2 vd)
    (fun c f => c.fgroup f vs1) (fun c f => c.fgroup f vs2) fun rm _ v1 v2 _ i =>
      funct6.elem rm (v2 i) (v1 i)

/-- `execute FWVFTYPE`. -/
def executeFWVFTYPE (funct6 : Fwvvfunct6) (vm : BitVec 1) (vs2 rs1 vd : Regidx) : M Retired :=
  fpWidening vm vd (fun c => overlapWiden c vs2 vd)
    (fun _ f => getScalarFp rs1 f) (fun c f => c.fgroup f vs2) fun rm _ rs1Val v2 _ i =>
      funct6.elem rm (v2 i) rs1Val

/-- The element of `FWVVMATYPE` and `FWVFMATYPE`. -/
def Fwvvmafunct6.elem {f : FpFormat} (funct6 : Fwvvmafunct6) (rm : BitVec 3)
    (a b : BitVec f.width) (d : BitVec f.widen.width) : M (BitVec f.widen.width) := do
  let a ← fpWiden a
  let b ← fpWiden b
  match funct6 with
  | .FWVV_VMACC => fpMuladd rm a b d
  | .FWVV_VNMACC => fpNmulsub rm a b d
  | .FWVV_VMSAC => fpMulsub rm a b d
  | .FWVV_VNMSAC => fpNmuladd rm a b d

/-- `execute FWVVMATYPE`. -/
def executeFWVVMATYPE (funct6 : Fwvvmafunct6) (vm : BitVec 1) (vs1 vs2 vd : Regidx) :
    M Retired :=
  fpWidening vm vd (fun c => overlapWiden c vs1 vd && overlapWiden c vs2 vd)
    (fun c f => c.fgroup f vs1) (fun c f => c.fgroup f vs2) fun rm _ v1 v2 old i =>
      funct6.elem rm (v1 i) (v2 i) (old i)

/-- `execute FWVFMATYPE`. -/
def executeFWVFMATYPE (funct6 : Fwvvmafunct6) (vm : BitVec 1) (rs1 vs2 vd : Regidx) :
    M Retired :=
  fpWidening vm vd (fun c => overlapWiden c vs2 vd)
    (fun _ f => getScalarFp rs1 f) (fun c f => c.fgroup f vs2) fun rm _ rs1Val v2 old i =>
      funct6.elem rm rs1Val (v2 i) (old i)

/-- The element of `FWVTYPE` and `FWFTYPE`; `a` has twice the width. -/
def Fwvfunct6.elem {f : FpFormat} (funct6 : Fwvfunct6) (rm : BitVec 3)
    (a : BitVec f.widen.width) (b : BitVec f.width) : M (BitVec f.widen.width) := do
  let b ← fpWiden b
  match funct6 with
  | .FWV_VADD => fpAdd rm a b
  | .FWV_VSUB => fpSub rm a b

/-- `execute FWVTYPE`. -/
def executeFWVTYPE (funct6 : Fwvfunct6) (vm : BitVec 1) (vs2 vs1 vd : Regidx) : M Retired :=
  fpWidening vm vd (fun c => overlapWiden c vs1 vd)
    (fun c f => c.fgroup f vs1) (fun c f => c.fgroupWiden f vs2) fun rm _ v1 v2 _ i =>
      funct6.elem rm (v2 i) (v1 i)

/-- `execute FWFTYPE`. -/
def executeFWFTYPE (funct6 : Fwvfunct6) (vm : BitVec 1) (vs2 rs1 vd : Regidx) : M Retired :=
  fpWidening vm vd (fun _ => true)
    (fun _ f => getScalarFp rs1 f) (fun c f => c.fgroupWiden f vs2) fun rm _ rs1Val v2 _ i =>
      funct6.elem rm (v2 i) rs1Val

/-- The element of `VFWUNARY0`. -/
def Vfwunary0.elem {f : FpFormat} (op : Vfwunary0) (rm : BitVec 3) (a : BitVec f.width) :
    M (BitVec f.widen.width) :=
  match op with
  | .FWV_CVT_XU_F => accrued (vecToUi f f.widen.width rm a)
  | .FWV_CVT_X_F => accrued (vecToI f f.widen.width rm a)
  | .FWV_CVT_F_XU => accrued (vecOfUi f.widen rm a)
  | .FWV_CVT_F_X => accrued (vecOfI f.widen rm a)
  | .FWV_CVT_F_F => accrued (SoftFloat.convert f f.widen rm a)
  | .FWV_CVT_RTZ_XU_F => accrued (vecToUi f f.widen.width 0b001#3 a)
  | .FWV_CVT_RTZ_X_F => accrued (vecToI f f.widen.width 0b001#3 a)

/-- `execute VFWUNARY0`. -/
def executeVFWUNARY0 (vm : BitVec 1) (vs2 : Regidx) (vfwunary0 : Vfwunary0) (vd : Regidx) :
    M Retired := do
  let rm ← getFrm
  let c ← vconf
  orIllegal (fun s => illegalFpVariableWidth s vd vm c.sew rm c.widen.sew c.widen.lmul
      || !overlapWiden c vs2 vd) <|
    onNarrowFormat c fun f => do
      let vmVal ← readVmask c.n vm 0b00000#5
      let v2 ← c.fgroup f vs2
      let old ← c.fgroupWiden f vd
      writeElems c.n f.widen.width c.widen.lmul vd old vmVal
        (fun i => value (vfwunary0.elem rm (v2 i)))

/-- The element of `VFNUNARY0`. -/
def Vfnunary0.elem {f : FpFormat} (op : Vfnunary0) (rm : BitVec 3) (a : BitVec f.widen.width) :
    M (BitVec f.width) :=
  match op with
  | .FNV_CVT_XU_F => accrued (vecToUi f.widen f.width rm a)
  | .FNV_CVT_X_F => accrued (vecToI f.widen f.width rm a)
  | .FNV_CVT_F_XU => accrued (vecOfUi f rm a)
  | .FNV_CVT_F_X => accrued (vecOfI f rm a)
  | .FNV_CVT_F_F => accrued (SoftFloat.convert f.widen f rm a)
  | .FNV_CVT_ROD_F_F => accrued (SoftFloat.convert f.widen f 0b110#3 a)
  | .FNV_CVT_RTZ_XU_F => accrued (vecToUi f.widen f.width 0b001#3 a)
  | .FNV_CVT_RTZ_X_F => accrued (vecToI f.widen f.width 0b001#3 a)

/-- `execute VFNUNARY0`. -/
def executeVFNUNARY0 (vm : BitVec 1) (vs2 : Regidx) (vfnunary0 : Vfnunary0) (vd : Regidx) :
    M Retired := do
  let rm ← getFrm
  let c ← vconf
  orIllegal (fun s => illegalFpVariableWidth s vd vm c.sew rm c.widen.sew c.widen.lmul
      || !validRegOverlap vs2 vd c.widen.lmul c.lmul) <|
    onNarrowFormat c fun f => do
      let vmVal ← readVmask c.n vm 0b00000#5
      let v2 ← c.fgroupWiden f vs2
      let old ← c.fgroup f vd
      writeElems c.n f.width c.lmul vd old vmVal (fun i => value (vfnunary0.elem rm (v2 i)))

/-! ## Moves and merges -/

/-- `execute VFMVFS`. -/
def executeVFMVFS (vs2 rd : Regidx) : M Retired := do
  let rm ← getFrm
  let sewPow ← getSewPow
  let numElem ← getNumElem 0 (2 ^ sewPow)
  orIllegal (fun s => illegalFpVdUnmasked s (2 ^ sewPow) rm || decide (2 ^ sewPow > flen)) <|
    onFormat ⟨sewPow, 0, numElem⟩ fun f => do
      let v2 ← readVreg numElem f.width 0 vs2
      wFp f rd (v2 0)
      endVector

/-- `execute VFMERGE`. -/
def executeVFMERGE (vs2 rs1 vd : Regidx) : M Retired := do
  let rm ← getFrm
  let start ← getStartElement
  let last ← getEndElement
  let c ← vconf
  orIllegal (fun s => illegalFpVdMasked s vd c.sew rm) <|
    onFormat c fun f => do
      let vmVal ← readVmask c.n 0#1 0b00000#5
      let rs1Val ← getScalarFp rs1 f
      let v2 ← c.fgroup f vs2
      let old ← c.fgroup f vd
      writeVreg c.n f.width c.lmul vd fun i =>
        if mergeBody c start last i then (if vmVal i then rs1Val else v2 i) else old i
      endVector

/-- `execute VFMV`. -/
def executeVFMV (rs1 vd : Regidx) : M Retired := do
  let rm ← getFrm
  let c ← vconf
  orIllegal (fun s => illegalFpVdUnmasked s c.sew rm) <|
    onFormat c fun f => do
      let rs1Val ← getScalarFp rs1 f
      let vmVal ← readVmask c.n 1#1 0b00000#5
      let old ← c.fgroup f vd
      writeElems c.n f.width c.lmul vd old vmVal (fun _ => just rs1Val)

/-- `execute VFMVSF`. -/
def executeVFMVSF (rs1 vd : Regidx) : M Retired := do
  let rm ← getFrm
  let sewPow ← getSewPow
  let numElem ← getNumElem 0 (2 ^ sewPow)
  orIllegal (fun s => illegalFpVdUnmasked s (2 ^ sewPow) rm) <|
    onFormat ⟨sewPow, 0, numElem⟩ fun f => do
      let vmVal ← readVmask numElem 1#1 0b00000#5
      let rs1Val ← getScalarFp rs1 f
      let old ← readVreg numElem f.width 0 vd
      let init ← initMaskedResult numElem 0 old vmVal
      writeVreg numElem f.width 0 vd fun i =>
        if i = 0 then (if init.2 0 then rs1Val else init.1 0) else old i
      endVector

/-! ## Comparisons -/

/-- The comparisons, which write a mask. -/
def fpCompare {β : FpFormat → Type} (vm : BitVec 1) (vd vs2 : Regidx)
    (src1 : VConf → (f : FpFormat) → M (β f))
    (elem : (f : FpFormat) → β f → (ℕ → BitVec f.width) → ℕ → M Bool) : M Retired := do
  let rm ← getFrm
  let c ← vconf
  orIllegal (fun s => illegalFpVdUnmasked s c.sew rm) <|
    onFormat c fun f => do
      let vmVal ← readVmask c.n vm 0b00000#5
      let v1 ← src1 c f
      let v2 ← c.fgroup f vs2
      let old ← readVmask c.n 0#1 vd
      let init ← initMaskedResultCmp c.n c.lmul old vmVal
      onValue (← forActive c.n init.2 init.1 (fun i => value (elem f v1 v2 i))) fun result => do
        writeVmask c.n vd result
        endVector

/-- The negation of a comparison. -/
def notM (m : M Bool) : M Bool := do pure (!(← m))

/-- `execute FVVMTYPE`. -/
def executeFVVMTYPE (funct6 : Fvvmfunct6) (vm : BitVec 1) (vs2 vs1 vd : Regidx) : M Retired :=
  fpCompare vm vd vs2 (fun c f => c.fgroup f vs1) fun _ v1 v2 i =>
    match funct6 with
    | .FVVM_VMFEQ => fpEq (v2 i) (v1 i)
    | .FVVM_VMFNE => notM (fpEq (v2 i) (v1 i))
    | .FVVM_VMFLE => fpLe (v2 i) (v1 i)
    | .FVVM_VMFLT => fpLt (v2 i) (v1 i)

/-- `execute FVFMTYPE`. -/
def executeFVFMTYPE (funct6 : Fvfmfunct6) (vm : BitVec 1) (vs2 rs1 vd : Regidx) : M Retired :=
  fpCompare vm vd vs2 (fun _ f => getScalarFp rs1 f) fun _ rs1Val v2 i =>
    match funct6 with
    | .VFM_VMFEQ => fpEq (v2 i) rs1Val
    | .VFM_VMFNE => notM (fpEq (v2 i) rs1Val)
    | .VFM_VMFLE => fpLe (v2 i) rs1Val
    | .VFM_VMFLT => fpLt (v2 i) rs1Val
    | .VFM_VMFGE => fpGe (v2 i) rs1Val
    | .VFM_VMFGT => fpGt (v2 i) rs1Val

/-! ## Reductions -/

/-- The reduction of the active elements of `vs2` to an element of the format `g`, from the
first element of `vs1`. -/
def fpReduce {m : ℕ} (g : FpFormat) (n numElemVd : ℕ) (lmul : ℤ) (vm : BitVec 1)
    (vs1 vd : Regidx) (readVs2 : M (ℕ → BitVec m))
    (elem : BitVec g.width → BitVec m → M (BitVec g.width)) : M Retired := do
  let vmVal ← readVmask n vm 0b00000#5
  let _ ← readVreg numElemVd g.width 0 vd
  let v2 ← readVs2
  let mask ← initMaskedSource n lmul vmVal
  let first ← readSingleElement g.width 0 vs1
  let sum ← Exec.foreach 0 n first fun i (sum : BitVec g.width) =>
    if mask i then elem sum (v2 i) else pure sum
  writeSingleElement g.width 0 vd sum
  endVector

/-- `process_rfvv_single`. -/
def processRfvvSingle (funct6 : Rfvvfunct6) (vm : BitVec 1) (vs2 vs1 vd : Regidx) (c : VConf) :
    M Retired := do
  let rm ← getFrm
  let numElemVd ← getNumElem 0 c.sew
  orIllegal (fun s => illegalFpReduction s c.sew rm) <|
    onFormat c fun f =>
      unlessEmpty <|
        fpReduce f c.n numElemVd c.lmul vm vs1 vd (c.fgroup f vs2) fun sum v =>
          match funct6 with
          | .FVV_VFREDOSUM => fpAdd rm sum v
          | .FVV_VFREDUSUM => fpAdd rm sum v
          | .FVV_VFREDMAX => fpMax sum v
          | .FVV_VFREDMIN => fpMin sum v
          | _ => internalError "Widening op unexpected"

/-- `process_rfvv_widen`. -/
def processRfvvWiden (vm : BitVec 1) (vs2 vs1 vd : Regidx) (c : VConf) : M Retired := do
  let rm ← getFrm
  let numElemVd ← getNumElem 0 c.widen.sew
  orIllegal (fun s => illegalFpReductionWiden s c.sew rm c.widen.sew c.widen.lmul) <|
    onNarrowFormat c fun f =>
      unlessEmpty <|
        fpReduce f.widen c.n numElemVd c.lmul vm vs1 vd (c.fgroup f vs2) fun sum v => do
          fpAdd rm sum (← fpWiden v)

/-- `execute RFVVTYPE`. -/
def executeRFVVTYPE (funct6 : Rfvvfunct6) (vm : BitVec 1) (vs2 vs1 vd : Regidx) : M Retired := do
  let c ← vconf
  if funct6 = .FVV_VFWREDOSUM ∨ funct6 = .FVV_VFWREDUSUM then processRfvvWiden vm vs2 vs1 vd c
  else processRfvvSingle funct6 vm vs2 vs1 vd c

/-! ## Execution -/

/-- `execute`. -/
def VextFpInst.execute : VextFpInst → M Retired
  | .FVVTYPE f vm vs2 vs1 vd => executeFVVTYPE f vm vs2 vs1 vd
  | .FVVMATYPE f vm vs2 vs1 vd => executeFVVMATYPE f vm vs2 vs1 vd
  | .FWVVTYPE f vm vs2 vs1 vd => executeFWVVTYPE f vm vs2 vs1 vd
  | .FWVVMATYPE f vm vs1 vs2 vd => executeFWVVMATYPE f vm vs1 vs2 vd
  | .FWVTYPE f vm vs2 vs1 vd => executeFWVTYPE f vm vs2 vs1 vd
  | .VFUNARY0 vm vs2 op vd => executeVFUNARY0 vm vs2 op vd
  | .VFWUNARY0 vm vs2 op vd => executeVFWUNARY0 vm vs2 op vd
  | .VFNUNARY0 vm vs2 op vd => executeVFNUNARY0 vm vs2 op vd
  | .VFUNARY1 vm vs2 op vd => executeVFUNARY1 vm vs2 op vd
  | .VFMVFS vs2 rd => executeVFMVFS vs2 rd
  | .FVFTYPE f vm vs2 rs1 vd => executeFVFTYPE f vm vs2 rs1 vd
  | .FVFMATYPE f vm vs2 rs1 vd => executeFVFMATYPE f vm vs2 rs1 vd
  | .FWVFTYPE f vm vs2 rs1 vd => executeFWVFTYPE f vm vs2 rs1 vd
  | .FWVFMATYPE f vm rs1 vs2 vd => executeFWVFMATYPE f vm rs1 vs2 vd
  | .FWFTYPE f vm vs2 rs1 vd => executeFWFTYPE f vm vs2 rs1 vd
  | .VFMERGE vs2 rs1 vd => executeVFMERGE vs2 rs1 vd
  | .VFMV rs1 vd => executeVFMV rs1 vd
  | .VFMVSF rs1 vd => executeVFMVSF rs1 vd
  | .FVVMTYPE f vm vs2 vs1 vd => executeFVVMTYPE f vm vs2 vs1 vd
  | .FVFMTYPE f vm vs2 rs1 vd => executeFVFMTYPE f vm vs2 rs1 vd
  | .RFVVTYPE f vm vs2 vs1 vd => executeRFVVTYPE f vm vs2 vs1 vd

end SailRiscv
