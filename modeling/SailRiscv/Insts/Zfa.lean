/-
# Additional floating-point instructions

`riscv_insts_zfa.sail`.  As in the other floating-point files a clause and its copies for the
formats are one constructor with the format as its first argument.
-/
import SailRiscv.Insts.Fext

namespace SailRiscv

open Bits Platform

/-! ## Syntax -/

/-- The clauses of `ast` for additional floating-point instructions. -/
inductive ZfaInst where
  | RISCV_FLI (f : FpFormat) (constantidx : BitVec 5) (rd : Regidx)
  | RISCV_FMINM (f : FpFormat) (rs2 rs1 rd : Regidx)
  | RISCV_FMAXM (f : FpFormat) (rs2 rs1 rd : Regidx)
  | RISCV_FROUND (f : FpFormat) (rs1 : Regidx) (rm : RoundingMode) (rd : Regidx)
  | RISCV_FROUNDNX (f : FpFormat) (rs1 : Regidx) (rm : RoundingMode) (rd : Regidx)
  | RISCV_FMVH_X_D (rs1 rd : Regidx)
  | RISCV_FMVP_D_X (rs2 rs1 rd : Regidx)
  | RISCV_FLEQ (f : FpFormat) (rs2 rs1 rd : Regidx)
  | RISCV_FLTQ (f : FpFormat) (rs2 rs1 rd : Regidx)
  | RISCV_FCVTMOD_W_D (rs1 rd : Regidx)
  deriving DecidableEq, Repr

variable [Platform]

/-! ## Decoding -/

/-- The guard of the instructions of a format.  The one for single precision does not ask for
the F extension. -/
def haveZfa (s : State) : FpFormat → Bool
  | .H => extensionEnabled s .Zfh && extensionEnabled s .Zfa
  | .S => extensionEnabled s .Zfa
  | .D => extensionEnabled s .D && extensionEnabled s .Zfa

/-- `in32BitMode`. -/
def in32BitMode (s : State) : Bool :=
  match curArchitecture s with
  | .ok .RV32 => true
  | _ => false

/-- The clauses of `encdec` for instructions of the format `f`, read backwards. -/
def ZfaInst.decodeFormat (s : State) (w : BitVec 32) (f : FpFormat) : Option ZfaInst :=
  let funct5 := bits w 27 5
  let funct3 := bits w 12 3
  let rs1 := rs1Of w
  let rs2 := rs2Of w
  let rd := rdOf w
  let rm := decodeRoundingMode funct3
  let have32 := extensionEnabled s .D && extensionEnabled s .Zfa && in32BitMode s
  let double := f == .D
  if bits w 0 7 == 0b1010011#7 then
    firstClause [
      clause (funct5 == 0b11110#5 && rs2 == 0b00001#5 && funct3 == 0b000#3 && haveZfa s f)
        (.RISCV_FLI f rs1 rd),
      clause (funct5 == 0b00101#5 && funct3 == 0b010#3 && haveZfa s f)
        (.RISCV_FMINM f rs2 rs1 rd),
      clause (funct5 == 0b00101#5 && funct3 == 0b011#3 && haveZfa s f)
        (.RISCV_FMAXM f rs2 rs1 rd),
      rm.bind (fun rm => clause (funct5 == 0b01000#5 && rs2 == 0b00100#5 && haveZfa s f)
        (.RISCV_FROUND f rs1 rm rd)),
      rm.bind (fun rm => clause (funct5 == 0b01000#5 && rs2 == 0b00101#5 && haveZfa s f)
        (.RISCV_FROUNDNX f rs1 rm rd)),
      clause (double && funct5 == 0b11100#5 && rs2 == 0b00001#5 && funct3 == 0b000#3 && have32)
        (.RISCV_FMVH_X_D rs1 rd),
      clause (double && funct5 == 0b10110#5 && funct3 == 0b000#3 && have32)
        (.RISCV_FMVP_D_X rs2 rs1 rd),
      clause (funct5 == 0b10100#5 && funct3 == 0b100#3 && haveZfa s f)
        (.RISCV_FLEQ f rs2 rs1 rd),
      clause (funct5 == 0b10100#5 && funct3 == 0b101#3 && haveZfa s f)
        (.RISCV_FLTQ f rs2 rs1 rd),
      clause (double && funct5 == 0b11000#5 && rs2 == 0b01000#5 && funct3 == 0b001#3
          && haveZfa s f)
        (.RISCV_FCVTMOD_W_D rs1 rd)]
  else none

/-- The clauses of `encdec` for additional floating-point instructions, read backwards. -/
def ZfaInst.decode (s : State) (w : BitVec 32) : Option ZfaInst :=
  (fpFormatOf (bits w 25 2)).bind (ZfaInst.decodeFormat s w)

/-! ## Constants -/

/-- The constants of `RISCV_FLI_H` before the NaN. -/
def fliH : List (BitVec 16) :=
  [0xbc00#16, 0x0400#16, 0x0100#16, 0x0200#16, 0x1c00#16, 0x2000#16, 0x2c00#16, 0x3000#16,
    0x3400#16, 0x3500#16, 0x3600#16, 0x3700#16, 0x3800#16, 0x3900#16, 0x3a00#16, 0x3b00#16,
    0x3c00#16, 0x3d00#16, 0x3e00#16, 0x3f00#16, 0x4000#16, 0x4100#16, 0x4200#16, 0x4400#16,
    0x4800#16, 0x4c00#16, 0x5800#16, 0x5c00#16, 0x7800#16, 0x7c00#16, 0x7c00#16]

/-- The constants of `RISCV_FLI_S` before the NaN. -/
def fliS : List (BitVec 32) :=
  [0xbf800000#32, 0x00800000#32, 0x37800000#32, 0x38000000#32, 0x3b800000#32, 0x3c000000#32,
    0x3d800000#32, 0x3e000000#32, 0x3e800000#32, 0x3ea00000#32, 0x3ec00000#32, 0x3ee00000#32,
    0x3f000000#32, 0x3f200000#32, 0x3f400000#32, 0x3f600000#32, 0x3f800000#32, 0x3fa00000#32,
    0x3fc00000#32, 0x3fe00000#32, 0x40000000#32, 0x40200000#32, 0x40400000#32, 0x40800000#32,
    0x41000000#32, 0x41800000#32, 0x43000000#32, 0x43800000#32, 0x47000000#32, 0x47800000#32,
    0x7f800000#32]

/-- The constants of `RISCV_FLI_D` before the NaN. -/
def fliD : List (BitVec 64) :=
  [0xbff0000000000000#64, 0x0010000000000000#64, 0x3ef0000000000000#64, 0x3f00000000000000#64,
    0x3f70000000000000#64, 0x3f80000000000000#64, 0x3fb0000000000000#64, 0x3fc0000000000000#64,
    0x3fd0000000000000#64, 0x3fd4000000000000#64, 0x3fd8000000000000#64, 0x3fdc000000000000#64,
    0x3fe0000000000000#64, 0x3fe4000000000000#64, 0x3fe8000000000000#64, 0x3fec000000000000#64,
    0x3ff0000000000000#64, 0x3ff4000000000000#64, 0x3ff8000000000000#64, 0x3ffc000000000000#64,
    0x4000000000000000#64, 0x4004000000000000#64, 0x4008000000000000#64, 0x4010000000000000#64,
    0x4020000000000000#64, 0x4030000000000000#64, 0x4060000000000000#64, 0x4070000000000000#64,
    0x40e0000000000000#64, 0x40f0000000000000#64, 0x7ff0000000000000#64]

/-- The constant with an index. -/
def fliConstant (f : FpFormat) (constantidx : BitVec 5) : BitVec f.width :=
  match f with
  | .H => fliH.getD constantidx.toNat (canonicalNaN .H)
  | .S => fliS.getD constantidx.toNat (canonicalNaN .S)
  | .D => fliD.getD constantidx.toNat (canonicalNaN .D)

/-! ## Computations -/

/-- The result and the flags of `RISCV_FMINM_S` and its copies. -/
def fminmResult {f : FpFormat} (v1 v2 : BitVec f.width) : Fflags × BitVec f.width :=
  let r := fle v1 v2 true
  (r.2,
    if fIsNaN v1 || fIsNaN v2 then canonicalNaN f
    else if fIsNegZero v1 && fIsPosZero v2 then v1
    else if fIsNegZero v2 && fIsPosZero v1 then v2
    else if r.1 then v1 else v2)

/-- The result and the flags of `RISCV_FMAXM_S` and its copies. -/
def fmaxmResult {f : FpFormat} (v1 v2 : BitVec f.width) : Fflags × BitVec f.width :=
  let r := fle v2 v1 true
  (r.2,
    if fIsNaN v1 || fIsNaN v2 then canonicalNaN f
    else if fIsNegZero v1 && fIsPosZero v2 then v2
    else if fIsNegZero v2 && fIsPosZero v1 then v1
    else if r.1 then v1 else v2)

/-- `fcvtmod_helper`. -/
def fcvtmodHelper (x64 : BitVec 64) : Fflags × BitVec 32 :=
  let sign := fsign (f := .D) x64
  let exp := fexp (f := .D) x64
  let mant := fmant (f := .D) x64
  let trueMant := 0b1#1 ++ mant
  let trueExp : ℤ := exp.toNat - 1023
  if exp == 0#_ && mant == 0#_ then (0#5, 0#32)
  else if exp == 0#_ && mant != 0#_ then (nxFlag, 0#32)
  else if exp == BitVec.allOnes _ then (nvFlag, 0#32)
  else if trueExp ≥ 84 then (nvFlag, 0#32)
  else if trueExp < 0 then (nxFlag, 0#32)
  else
    let fixedpoint : BitVec 84 := trueMant.setWidth 84 <<< trueExp.toNat
    let integer := fixedpoint.extractLsb' 52 32
    let fractional := fixedpoint.extractLsb' 0 52
    let result := if sign = 0b1#1 then ~~~integer + 1#32 else integer
    let maxInteger := if sign = 0b1#1 then 0x80000000 else 0x7fffffff
    let flags :=
      if trueExp > 31 then nvFlag
      else if integer.toNat > maxInteger then nvFlag
      else if fractional != 0#52 then nxFlag
      else 0#5
    (flags, result)

/-! ## Execution -/

variable [SoftFloat]

/-- `{ accrue_fflags(fflags); F(rd) = v; RETIRE_SUCCESS }`. -/
def retireFp (f : FpFormat) (rd : Regidx) (r : Fflags × BitVec f.width) : M Retired := do
  accrueFflags r.1
  wFp f rd r.2
  pure .RETIRE_SUCCESS

/-- `execute RISCV_FROUND_S`, `RISCV_FROUNDNX_S` and their copies. -/
def executeFround (exact : Bool) (f : FpFormat) (rs1 : Regidx) (rm : RoundingMode)
    (rd : Regidx) : M Retired := do
  let v ← rFp f rs1
  withRm rm fun rm3 => retireFp f rd (SoftFloat.roundToInt f rm3 v exact)

/-- `execute`. -/
def ZfaInst.execute : ZfaInst → M Retired
  | .RISCV_FLI f constantidx rd => do
      wFp f rd (fliConstant f constantidx)
      pure .RETIRE_SUCCESS
  | .RISCV_FMINM f rs2 rs1 rd => do
      let v1 ← rFp f rs1
      let v2 ← rFp f rs2
      retireFp f rd (fminmResult v1 v2)
  | .RISCV_FMAXM f rs2 rs1 rd => do
      let v1 ← rFp f rs1
      let v2 ← rFp f rs2
      retireFp f rd (fmaxmResult v1 v2)
  | .RISCV_FROUND f rs1 rm rd => executeFround false f rs1 rm rd
  | .RISCV_FROUNDNX f rs1 rm rd => executeFround true f rs1 rm rd
  | .RISCV_FMVH_X_D rs1 rd => do
      let v : BitVec 32 := (← rFp .D rs1).extractLsb' 32 32
      retireX rd (v.signExtend xlen)
  | .RISCV_FMVP_D_X rs2 rs1 rd => do
      let v1 := word (← rX rs1)
      let v2 := word (← rX rs2)
      wFp .D rd ((v2 ++ v1).setWidth 64)
      pure .RETIRE_SUCCESS
  | .RISCV_FLEQ f rs2 rs1 rd => do
      let v1 ← rFp f rs1
      let v2 ← rFp f rs2
      retireCompare rd (SoftFloat.leQuiet f v1 v2)
  | .RISCV_FLTQ f rs2 rs1 rd => do
      let v1 ← rFp f rs1
      let v2 ← rFp f rs2
      retireCompare rd (SoftFloat.ltQuiet f v1 v2)
  | .RISCV_FCVTMOD_W_D rs1 rd => do
      let v ← rFp .D rs1
      retireFlagsX rd (fcvtmodHelper v).1 ((fcvtmodHelper v).2.signExtend xlen)

end SailRiscv
