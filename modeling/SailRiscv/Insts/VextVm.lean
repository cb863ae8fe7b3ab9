/-
# Vector integer arithmetic with masks as operands and results

`riscv_insts_vext_vm.sail`: carries, borrows and comparisons.
-/
import SailRiscv.Insts.VextArith

namespace SailRiscv

open Bits Platform

/-! ## Syntax -/

/-- `vvmfunct6`. -/
inductive Vvmfunct6 where
  | VVM_VMADC | VVM_VMSBC
  deriving DecidableEq, Repr

/-- `vvmcfunct6`. -/
inductive Vvmcfunct6 where
  | VVMC_VMADC | VVMC_VMSBC
  deriving DecidableEq, Repr

/-- `vvmsfunct6`. -/
inductive Vvmsfunct6 where
  | VVMS_VADC | VVMS_VSBC
  deriving DecidableEq, Repr

/-- `vvcmpfunct6`. -/
inductive Vvcmpfunct6 where
  | VVCMP_VMSEQ | VVCMP_VMSNE | VVCMP_VMSLTU | VVCMP_VMSLT | VVCMP_VMSLEU | VVCMP_VMSLE
  deriving DecidableEq, Repr

/-- `vxmfunct6`. -/
inductive Vxmfunct6 where
  | VXM_VMADC | VXM_VMSBC
  deriving DecidableEq, Repr

/-- `vxmcfunct6`. -/
inductive Vxmcfunct6 where
  | VXMC_VMADC | VXMC_VMSBC
  deriving DecidableEq, Repr

/-- `vxmsfunct6`. -/
inductive Vxmsfunct6 where
  | VXMS_VADC | VXMS_VSBC
  deriving DecidableEq, Repr

/-- `vxcmpfunct6`. -/
inductive Vxcmpfunct6 where
  | VXCMP_VMSEQ | VXCMP_VMSNE | VXCMP_VMSLTU | VXCMP_VMSLT | VXCMP_VMSLEU | VXCMP_VMSLE
  | VXCMP_VMSGTU | VXCMP_VMSGT
  deriving DecidableEq, Repr

/-- `vimfunct6`. -/
inductive Vimfunct6 where
  | VIM_VMADC
  deriving DecidableEq, Repr

/-- `vimcfunct6`. -/
inductive Vimcfunct6 where
  | VIMC_VMADC
  deriving DecidableEq, Repr

/-- `vimsfunct6`. -/
inductive Vimsfunct6 where
  | VIMS_VADC
  deriving DecidableEq, Repr

/-- `vicmpfunct6`. -/
inductive Vicmpfunct6 where
  | VICMP_VMSEQ | VICMP_VMSNE | VICMP_VMSLEU | VICMP_VMSLE | VICMP_VMSGTU | VICMP_VMSGT
  deriving DecidableEq, Repr

/-- The clauses of `ast` for arithmetic with masks. -/
inductive VextVmInst where
  | VVMTYPE (funct6 : Vvmfunct6) (vs2 vs1 vd : Regidx)
  | VVMCTYPE (funct6 : Vvmcfunct6) (vs2 vs1 vd : Regidx)
  | VVMSTYPE (funct6 : Vvmsfunct6) (vs2 vs1 vd : Regidx)
  | VVCMPTYPE (funct6 : Vvcmpfunct6) (vm : BitVec 1) (vs2 vs1 vd : Regidx)
  | VXMTYPE (funct6 : Vxmfunct6) (vs2 rs1 vd : Regidx)
  | VXMCTYPE (funct6 : Vxmcfunct6) (vs2 rs1 vd : Regidx)
  | VXMSTYPE (funct6 : Vxmsfunct6) (vs2 rs1 vd : Regidx)
  | VXCMPTYPE (funct6 : Vxcmpfunct6) (vm : BitVec 1) (vs2 rs1 vd : Regidx)
  | VIMTYPE (funct6 : Vimfunct6) (vs2 simm vd : Regidx)
  | VIMCTYPE (funct6 : Vimcfunct6) (vs2 simm vd : Regidx)
  | VIMSTYPE (funct6 : Vimsfunct6) (vs2 simm vd : Regidx)
  | VICMPTYPE (funct6 : Vicmpfunct6) (vm : BitVec 1) (vs2 simm vd : Regidx)
  deriving DecidableEq, Repr

/-! ## Decoding -/

/-- `encdec_vvmfunct6`. -/
def encdecVvmfunct6 : List (BitVec 6 × Vvmfunct6) :=
  [(0b010001, .VVM_VMADC), (0b010011, .VVM_VMSBC)]

/-- `encdec_vvmcfunct6`. -/
def encdecVvmcfunct6 : List (BitVec 6 × Vvmcfunct6) :=
  [(0b010001, .VVMC_VMADC), (0b010011, .VVMC_VMSBC)]

/-- `encdec_vvmsfunct6`. -/
def encdecVvmsfunct6 : List (BitVec 6 × Vvmsfunct6) :=
  [(0b010000, .VVMS_VADC), (0b010010, .VVMS_VSBC)]

/-- `encdec_vvcmpfunct6`. -/
def encdecVvcmpfunct6 : List (BitVec 6 × Vvcmpfunct6) :=
  [(0b011000, .VVCMP_VMSEQ), (0b011001, .VVCMP_VMSNE), (0b011010, .VVCMP_VMSLTU),
   (0b011011, .VVCMP_VMSLT), (0b011100, .VVCMP_VMSLEU), (0b011101, .VVCMP_VMSLE)]

/-- `encdec_vxmfunct6`. -/
def encdecVxmfunct6 : List (BitVec 6 × Vxmfunct6) :=
  [(0b010001, .VXM_VMADC), (0b010011, .VXM_VMSBC)]

/-- `encdec_vxmcfunct6`. -/
def encdecVxmcfunct6 : List (BitVec 6 × Vxmcfunct6) :=
  [(0b010001, .VXMC_VMADC), (0b010011, .VXMC_VMSBC)]

/-- `encdec_vxmsfunct6`. -/
def encdecVxmsfunct6 : List (BitVec 6 × Vxmsfunct6) :=
  [(0b010000, .VXMS_VADC), (0b010010, .VXMS_VSBC)]

/-- `encdec_vxcmpfunct6`. -/
def encdecVxcmpfunct6 : List (BitVec 6 × Vxcmpfunct6) :=
  [(0b011000, .VXCMP_VMSEQ), (0b011001, .VXCMP_VMSNE), (0b011010, .VXCMP_VMSLTU),
   (0b011011, .VXCMP_VMSLT), (0b011100, .VXCMP_VMSLEU), (0b011101, .VXCMP_VMSLE),
   (0b011110, .VXCMP_VMSGTU), (0b011111, .VXCMP_VMSGT)]

/-- `encdec_vimfunct6`. -/
def encdecVimfunct6 : List (BitVec 6 × Vimfunct6) := [(0b010001, .VIM_VMADC)]

/-- `encdec_vimcfunct6`. -/
def encdecVimcfunct6 : List (BitVec 6 × Vimcfunct6) := [(0b010001, .VIMC_VMADC)]

/-- `encdec_vimsfunct6`. -/
def encdecVimsfunct6 : List (BitVec 6 × Vimsfunct6) := [(0b010000, .VIMS_VADC)]

/-- `encdec_vicmpfunct6`. -/
def encdecVicmpfunct6 : List (BitVec 6 × Vicmpfunct6) :=
  [(0b011000, .VICMP_VMSEQ), (0b011001, .VICMP_VMSNE), (0b011100, .VICMP_VMSLEU),
   (0b011101, .VICMP_VMSLE), (0b011110, .VICMP_VMSGTU), (0b011111, .VICMP_VMSGT)]

variable [Platform]

/-- The clauses of `encdec` for arithmetic with masks, read backwards. -/
def VextVmInst.decode (s : State) (w : BitVec 32) : Option VextVmInst :=
  let opV := bits w 0 7 == 0b1010111#7 && extensionEnabled s .V
  let opivv := opV && bits w 12 3 == 0b000#3
  let opivx := opV && bits w 12 3 == 0b100#3
  let opivi := opV && bits w 12 3 == 0b011#3
  let vm := vmOf w
  let f6 := funct6Of w
  let (vs2, vs1, vd) := (rs2Of w, rs1Of w, rdOf w)
  firstClause [
    mapped (opivv && vm == 0b0#1) encdecVvmfunct6 f6 (.VVMTYPE · vs2 vs1 vd),
    mapped (opivv && vm == 0b1#1) encdecVvmcfunct6 f6 (.VVMCTYPE · vs2 vs1 vd),
    mapped (opivv && vm == 0b0#1) encdecVvmsfunct6 f6 (.VVMSTYPE · vs2 vs1 vd),
    mapped opivv encdecVvcmpfunct6 f6 (.VVCMPTYPE · vm vs2 vs1 vd),
    mapped (opivx && vm == 0b0#1) encdecVxmfunct6 f6 (.VXMTYPE · vs2 vs1 vd),
    mapped (opivx && vm == 0b1#1) encdecVxmcfunct6 f6 (.VXMCTYPE · vs2 vs1 vd),
    mapped (opivx && vm == 0b0#1) encdecVxmsfunct6 f6 (.VXMSTYPE · vs2 vs1 vd),
    mapped opivx encdecVxcmpfunct6 f6 (.VXCMPTYPE · vm vs2 vs1 vd),
    mapped (opivi && vm == 0b0#1) encdecVimfunct6 f6 (.VIMTYPE · vs2 vs1 vd),
    mapped (opivi && vm == 0b1#1) encdecVimcfunct6 f6 (.VIMCTYPE · vs2 vs1 vd),
    mapped (opivi && vm == 0b0#1) encdecVimsfunct6 f6 (.VIMSTYPE · vs2 vs1 vd),
    mapped opivi encdecVicmpfunct6 f6 (.VICMPTYPE · vm vs2 vs1 vd)]

/-! ## Carries and borrows -/

/-- The carry out of an addition. -/
def carryOut {m : ℕ} (a b : BitVec m) (carry : ℕ) : Bool :=
  decide (((a.toNat + b.toNat + carry : ℕ) : ℤ) > 2 ^ m - 1)

/-- The borrow out of a subtraction. -/
def borrowOut {m : ℕ} (a b : BitVec m) (borrow : ℕ) : Bool :=
  decide ((a.toNat - b.toNat - borrow : ℤ) < 0)

/-- The clauses with a carry in and a carry out. -/
def carryInOut (vs2 vd : Regidx) (src1 : Src1)
    (elem : {m : ℕ} → (a b : BitVec m) → ℕ → Bool) : M Retired := do
  let c ← vconf
  orIllegal illegalVdUnmasked do
    let vmVal ← readVmaskCarry c.n 0#1 0b00000#5
    let v1 ← src1 c
    let v2 ← c.group vs2
    let old ← readVmask c.n 0#1 vd
    writeMaskElems c.n vd (initMaskedResultCarry c.n c.lmul old)
      (fun i => elem (v2 i) (v1 i) (boolToNat (vmVal i)))

/-- The clauses with a carry out and no carry in. -/
def carryOutOnly (vs2 vd : Regidx) (src1 : Src1)
    (elem : {m : ℕ} → (a b : BitVec m) → ℕ → Bool) : M Retired := do
  let c ← vconf
  orIllegal illegalVdUnmasked do
    let v1 ← src1 c
    let v2 ← c.group vs2
    let old ← readVmask c.n 0#1 vd
    writeMaskElems c.n vd (initMaskedResultCarry c.n c.lmul old)
      (fun i => elem (v2 i) (v1 i) 0)

/-- The clauses with a carry in and no carry out. -/
def carryIn (vs2 vd : Regidx) (src1 : Src1)
    (elem : {m : ℕ} → (a b : BitVec m) → ℕ → BitVec m) : M Retired := do
  let c ← vconf
  orIllegal (fun s => illegalVdMasked s vd) do
    let vmVal ← readVmaskCarry c.n 0#1 0b00000#5
    let v1 ← src1 c
    let v2 ← c.group vs2
    let old ← c.group vd
    -- all elements of the body are active, whatever the carries are
    writeElems c.n c.sew c.lmul vd old (fun _ => true)
      (fun i => just (elem (v2 i) (v1 i) (boolToNat (vmVal i))))

/-- The sum of two elements and a carry. -/
def addCarry {m : ℕ} (a b : BitVec m) (carry : ℕ) : BitVec m :=
  toBits m (a.toNat + b.toNat + carry)

/-- The difference of two elements and a borrow. -/
def subBorrow {m : ℕ} (a b : BitVec m) (borrow : ℕ) : BitVec m :=
  toBits m (a.toNat - b.toNat - borrow)

/-- `execute VVMTYPE`. -/
def executeVVMTYPE (funct6 : Vvmfunct6) (vs2 vs1 vd : Regidx) : M Retired :=
  carryInOut vs2 vd (srcV vs1) (match funct6 with
    | .VVM_VMADC => carryOut
    | .VVM_VMSBC => borrowOut)

/-- `execute VVMCTYPE`. -/
def executeVVMCTYPE (funct6 : Vvmcfunct6) (vs2 vs1 vd : Regidx) : M Retired :=
  carryOutOnly vs2 vd (srcV vs1) (match funct6 with
    | .VVMC_VMADC => carryOut
    | .VVMC_VMSBC => borrowOut)

/-- `execute VVMSTYPE`. -/
def executeVVMSTYPE (funct6 : Vvmsfunct6) (vs2 vs1 vd : Regidx) : M Retired :=
  carryIn vs2 vd (srcV vs1) (match funct6 with
    | .VVMS_VADC => addCarry
    | .VVMS_VSBC => subBorrow)

/-- `execute VXMTYPE`. -/
def executeVXMTYPE (funct6 : Vxmfunct6) (vs2 rs1 vd : Regidx) : M Retired :=
  carryInOut vs2 vd (srcX rs1) (match funct6 with
    | .VXM_VMADC => carryOut
    | .VXM_VMSBC => borrowOut)

/-- `execute VXMCTYPE`. -/
def executeVXMCTYPE (funct6 : Vxmcfunct6) (vs2 rs1 vd : Regidx) : M Retired :=
  carryOutOnly vs2 vd (srcX rs1) (match funct6 with
    | .VXMC_VMADC => carryOut
    | .VXMC_VMSBC => borrowOut)

/-- `execute VXMSTYPE`. -/
def executeVXMSTYPE (funct6 : Vxmsfunct6) (vs2 rs1 vd : Regidx) : M Retired :=
  carryIn vs2 vd (srcX rs1) (match funct6 with
    | .VXMS_VADC => addCarry
    | .VXMS_VSBC => subBorrow)

/-- `execute VIMTYPE`. -/
def executeVIMTYPE (funct6 : Vimfunct6) (vs2 simm vd : Regidx) : M Retired :=
  carryInOut vs2 vd (srcI simm) (match funct6 with
    | .VIM_VMADC => carryOut)

/-- `execute VIMCTYPE`. -/
def executeVIMCTYPE (funct6 : Vimcfunct6) (vs2 simm vd : Regidx) : M Retired :=
  carryOutOnly vs2 vd (srcI simm) (match funct6 with
    | .VIMC_VMADC => carryOut)

/-- `execute VIMSTYPE`. -/
def executeVIMSTYPE (funct6 : Vimsfunct6) (vs2 simm vd : Regidx) : M Retired :=
  carryIn vs2 vd (srcI simm) (match funct6 with
    | .VIMS_VADC => addCarry)

/-! ## Comparisons -/

/-- The comparisons. -/
def vectorCompare (vm : BitVec 1) (vs2 vd : Regidx) (src1 : Src1)
    (elem : {m : ℕ} → (a b : BitVec m) → Bool) : M Retired := do
  let c ← vconf
  orIllegal illegalVdUnmasked do
    let vmVal ← readVmask c.n vm 0b00000#5
    let v1 ← src1 c
    let v2 ← c.group vs2
    let old ← readVmask c.n 0#1 vd
    writeMaskElems c.n vd (initMaskedResultCmp c.n c.lmul old vmVal) (fun i => elem (v2 i) (v1 i))

/-- `execute VVCMPTYPE`. -/
def executeVVCMPTYPE (funct6 : Vvcmpfunct6) (vm : BitVec 1) (vs2 vs1 vd : Regidx) : M Retired :=
  vectorCompare vm vs2 vd (srcV vs1) fun a b =>
    match funct6 with
    | .VVCMP_VMSEQ => a == b
    | .VVCMP_VMSNE => a != b
    | .VVCMP_VMSLTU => decide (a.toNat < b.toNat)
    | .VVCMP_VMSLT => decide (a.toInt < b.toInt)
    | .VVCMP_VMSLEU => decide (a.toNat ≤ b.toNat)
    | .VVCMP_VMSLE => decide (a.toInt ≤ b.toInt)

/-- `execute VXCMPTYPE`. -/
def executeVXCMPTYPE (funct6 : Vxcmpfunct6) (vm : BitVec 1) (vs2 rs1 vd : Regidx) : M Retired :=
  vectorCompare vm vs2 vd (srcX rs1) fun a b =>
    match funct6 with
    | .VXCMP_VMSEQ => a == b
    | .VXCMP_VMSNE => a != b
    | .VXCMP_VMSLTU => decide (a.toNat < b.toNat)
    | .VXCMP_VMSLT => decide (a.toInt < b.toInt)
    | .VXCMP_VMSLEU => decide (a.toNat ≤ b.toNat)
    | .VXCMP_VMSLE => decide (a.toInt ≤ b.toInt)
    | .VXCMP_VMSGTU => decide (a.toNat > b.toNat)
    | .VXCMP_VMSGT => decide (a.toInt > b.toInt)

/-- `execute VICMPTYPE`. -/
def executeVICMPTYPE (funct6 : Vicmpfunct6) (vm : BitVec 1) (vs2 simm vd : Regidx) : M Retired :=
  vectorCompare vm vs2 vd (srcI simm) fun a b =>
    match funct6 with
    | .VICMP_VMSEQ => a == b
    | .VICMP_VMSNE => a != b
    | .VICMP_VMSLEU => decide (a.toNat ≤ b.toNat)
    | .VICMP_VMSLE => decide (a.toInt ≤ b.toInt)
    | .VICMP_VMSGTU => decide (a.toNat > b.toNat)
    | .VICMP_VMSGT => decide (a.toInt > b.toInt)

/-! ## Execution -/

/-- `execute` of the clauses for arithmetic with masks. -/
def VextVmInst.execute : VextVmInst → M Retired
  | .VVMTYPE f vs2 vs1 vd => executeVVMTYPE f vs2 vs1 vd
  | .VVMCTYPE f vs2 vs1 vd => executeVVMCTYPE f vs2 vs1 vd
  | .VVMSTYPE f vs2 vs1 vd => executeVVMSTYPE f vs2 vs1 vd
  | .VVCMPTYPE f vm vs2 vs1 vd => executeVVCMPTYPE f vm vs2 vs1 vd
  | .VXMTYPE f vs2 rs1 vd => executeVXMTYPE f vs2 rs1 vd
  | .VXMCTYPE f vs2 rs1 vd => executeVXMCTYPE f vs2 rs1 vd
  | .VXMSTYPE f vs2 rs1 vd => executeVXMSTYPE f vs2 rs1 vd
  | .VXCMPTYPE f vm vs2 rs1 vd => executeVXCMPTYPE f vm vs2 rs1 vd
  | .VIMTYPE f vs2 simm vd => executeVIMTYPE f vs2 simm vd
  | .VIMCTYPE f vs2 simm vd => executeVIMCTYPE f vs2 simm vd
  | .VIMSTYPE f vs2 simm vd => executeVIMSTYPE f vs2 simm vd
  | .VICMPTYPE f vm vs2 simm vd => executeVICMPTYPE f vm vs2 simm vd

end SailRiscv
