/-
# Floating-point instructions

`riscv_insts_fext.sail`, `riscv_insts_dext.sail` and `riscv_insts_zfh.sail`.  The three files
follow each other closely: a clause and its copies with the suffixes `_S`, `_D` and `_H` are one
constructor with the format as its first argument.
-/
import SailRiscv.FdextRegs

namespace SailRiscv

open Bits Platform

/-! ## Syntax -/

/-- `f_madd_op_S` and its copies. -/
inductive FMaddOp where
  | FMADD | FMSUB | FNMSUB | FNMADD
  deriving DecidableEq, Repr

/-- `f_bin_rm_op_S` and its copies. -/
inductive FBinRmOp where
  | FADD | FSUB | FMUL | FDIV
  deriving DecidableEq, Repr

/-- `f_un_rm_op_S` and its copies.  `FCVT_W` converts to an integer and `FCVT_F_W` from one;
`FCVT_F g` converts to the format `g`. -/
inductive FUnRmOp where
  | FSQRT
  | FCVT_W | FCVT_WU | FCVT_L | FCVT_LU
  | FCVT_F_W | FCVT_F_WU | FCVT_F_L | FCVT_F_LU
  | FCVT_F (g : FpFormat)
  deriving DecidableEq, Repr

/-- `f_bin_op_S` and its copies. -/
inductive FBinOp where
  | FSGNJ | FSGNJN | FSGNJX | FMIN | FMAX | FEQ | FLT | FLE
  deriving DecidableEq, Repr

/-- `f_un_op_S` and its copies. -/
inductive FUnOp where
  | FCLASS | FMV_X_F | FMV_F_X
  deriving DecidableEq, Repr

/-- The clauses of `ast` for floating-point instructions. -/
inductive FpInst where
  | LOAD_FP (imm : BitVec 12) (rs1 rd : Regidx) (width : WordWidth)
  | STORE_FP (imm : BitVec 12) (rs2 rs1 : Regidx) (width : WordWidth)
  | F_MADD_TYPE (f : FpFormat) (rs3 rs2 rs1 : Regidx) (rm : RoundingMode) (rd : Regidx)
      (op : FMaddOp)
  | F_BIN_RM_TYPE (f : FpFormat) (rs2 rs1 : Regidx) (rm : RoundingMode) (rd : Regidx)
      (op : FBinRmOp)
  | F_UN_RM_TYPE (f : FpFormat) (rs1 : Regidx) (rm : RoundingMode) (rd : Regidx) (op : FUnRmOp)
  | F_BIN_TYPE (f : FpFormat) (rs2 rs1 rd : Regidx) (op : FBinOp)
  | F_UN_TYPE (f : FpFormat) (rs1 rd : Regidx) (op : FUnOp)
  deriving DecidableEq, Repr

variable [Platform]

/-! ## Decoding -/

/-- `haveSingleFPU`. -/
def haveSingleFPU (s : State) : Bool := extensionEnabled s .F || extensionEnabled s .Zfinx

/-- `haveDoubleFPU`. -/
def haveDoubleFPU (s : State) : Bool := extensionEnabled s .D || extensionEnabled s .Zdinx

/-- `haveHalfFPU`. -/
def haveHalfFPU (s : State) : Bool := extensionEnabled s .Zfh || extensionEnabled s .Zhinx

/-- `haveHalfMin`. -/
def haveHalfMin (s : State) : Bool := haveHalfFPU s || extensionEnabled s .Zfhmin

/-- `validDoubleRegs`: on RV32 a double in integer registers takes an even pair. -/
def validDoubleRegs (s : State) (regs : List Regidx) : Bool :=
  if extensionEnabled s .Zdinx && decide (xlen = 32) then regs.all (fun r => !r.getLsbD 0) else true

/-- The guard of the instructions of a format, `regs` being the registers that hold values of
this format. -/
def haveFPU (s : State) (f : FpFormat) (regs : List Regidx) : Bool :=
  match f with
  | .H => haveHalfFPU s
  | .S => haveSingleFPU s
  | .D => haveDoubleFPU s && validDoubleRegs s regs

/-- The guard of the conversions between a format and 64-bit integers. -/
def haveFPU64 (s : State) (f : FpFormat) : Bool :=
  haveFPU s f [] && decide (xlen ≥ 64)

/-- The guard of `FCVT_S_D`, `FCVT_D_S` and the conversions of halves. -/
def haveConversion (s : State) (f g : FpFormat) (rs1 rd : Regidx) : Bool :=
  match f, g with
  | .D, .S => haveDoubleFPU s && validDoubleRegs s [rs1]
  | .S, .D => haveDoubleFPU s && validDoubleRegs s [rd]
  | .S, .H => haveHalfMin s
  | .D, .H => haveHalfMin s && (haveDoubleFPU s && validDoubleRegs s [rs1])
  | .H, .S => haveHalfMin s
  | .H, .D => haveHalfMin s && (haveDoubleFPU s && validDoubleRegs s [rd])
  | _, _ => false

/-- The guard of the moves between integer and floating-point registers. -/
def haveMove (s : State) : FpFormat → Bool
  | .H => extensionEnabled s .Zfhmin
  | .S => extensionEnabled s .F
  | .D => extensionEnabled s .D && decide (xlen ≥ 64)

/-- The format in an instruction word. -/
def fpFormatOf (b : BitVec 2) : Option FpFormat :=
  [(0b00#2, FpFormat.S), (0b01#2, .D), (0b10#2, .H)].lookup b

/-- `encdec` of the operations of `F_MADD_TYPE_S`, in the opcode. -/
def encdecFMaddOp : List (BitVec 7 × FMaddOp) :=
  [(0b1000011#7, .FMADD), (0b1000111#7, .FMSUB), (0b1001011#7, .FNMSUB), (0b1001111#7, .FNMADD)]

/-- `encdec` of the operations of `F_BIN_RM_TYPE_S`, in the bits 31..27. -/
def encdecFBinRmOp : List (BitVec 5 × FBinRmOp) :=
  [(0b00000#5, .FADD), (0b00001#5, .FSUB), (0b00010#5, .FMUL), (0b00011#5, .FDIV)]

/-- `encdec` of the operations of `F_UN_RM_TYPE_S` other than the conversions between formats,
in the bits 31..27 and 24..20. -/
def encdecFUnRmOp : List (BitVec 10 × FUnRmOp) :=
  [(0b0101100000#10, .FSQRT), (0b1100000000#10, .FCVT_W), (0b1100000001#10, .FCVT_WU),
    (0b1101000000#10, .FCVT_F_W), (0b1101000001#10, .FCVT_F_WU), (0b1100000010#10, .FCVT_L),
    (0b1100000011#10, .FCVT_LU), (0b1101000010#10, .FCVT_F_L), (0b1101000011#10, .FCVT_F_LU)]

/-- `encdec` of the operations of `F_BIN_TYPE_S`, in the bits 31..27 and 14..12. -/
def encdecFBinOp : List (BitVec 8 × FBinOp) :=
  [(0b00100000#8, .FSGNJ), (0b00100001#8, .FSGNJN), (0b00100010#8, .FSGNJX),
    (0b00101000#8, .FMIN), (0b00101001#8, .FMAX), (0b10100010#8, .FEQ), (0b10100001#8, .FLT),
    (0b10100000#8, .FLE)]

/-- `encdec` of the operations of `F_UN_TYPE_S`, in the bits 31..27 and 14..12. -/
def encdecFUnOp : List (BitVec 8 × FUnOp) :=
  [(0b11100001#8, .FCLASS), (0b11100000#8, .FMV_X_F), (0b11110000#8, .FMV_F_X)]

/-- The registers of an operation with a rounding mode that hold values of its format. -/
def FUnRmOp.regs (rs1 rd : Regidx) : FUnRmOp → List Regidx
  | .FCVT_W | .FCVT_WU => [rs1]
  | .FCVT_F_W | .FCVT_F_WU => [rd]
  | _ => [rs1, rd]

/-- The guard of an operation of `F_UN_RM_TYPE_S` or one of its copies. -/
def FUnRmOp.guard (s : State) (f : FpFormat) (rs1 rd : Regidx) : FUnRmOp → Bool
  | .FCVT_L | .FCVT_LU | .FCVT_F_L | .FCVT_F_LU => haveFPU64 s f
  | .FCVT_F g => haveConversion s f g rs1 rd
  | op => haveFPU s f (op.regs rs1 rd)

/-- The guard of an operation of `F_BIN_TYPE_S` or one of its copies. -/
def FBinOp.guard (s : State) (f : FpFormat) (rs2 rs1 rd : Regidx) : FBinOp → Bool
  | .FEQ | .FLT | .FLE => haveFPU s f [rs2, rs1]
  | _ => haveFPU s f [rs2, rs1, rd]

/-- The guard of an operation of `F_UN_TYPE_S` or one of its copies. -/
def FUnOp.guard (s : State) (f : FpFormat) (rs1 : Regidx) : FUnOp → Bool
  | .FCLASS => haveFPU s f [rs1]
  | .FMV_X_F | .FMV_F_X => haveMove s f

/-- The operation in an instruction word that passes its guard. -/
def guarded {α β : Type} {n : ℕ} (encdec : List (BitVec n × α)) (field : BitVec n)
    (guard : α → Bool) (mk : α → β) : Option β :=
  (encdec.lookup field).bind (fun op => clause (guard op) (mk op))

/-- The guard of `LOAD_FP` and `STORE_FP`. -/
def haveFpAccess (s : State) (w : BitVec 32) : Option WordWidth :=
  firstClause [
    clause (bits w 12 3 == 0b001#3 && extensionEnabled s .Zfhmin) .HALF,
    clause (bits w 12 3 == 0b010#3 && extensionEnabled s .F) .WORD,
    clause (bits w 12 3 == 0b011#3 && extensionEnabled s .D) .DOUBLE]

/-- The clauses of `encdec` for operations on the format `f`, read backwards. -/
def FpInst.decodeOp (s : State) (w : BitVec 32) (f : FpFormat) : Option FpInst :=
  let rs1 := rs1Of w
  let rs2 := rs2Of w
  let rs3 : Regidx := bits w 27 5
  let rd := rdOf w
  let rm := decodeRoundingMode (bits w 12 3)
  let opFp := bits w 0 7 == 0b1010011#7
  firstClause [
    rm.bind (fun rm => guarded encdecFMaddOp (bits w 0 7)
      (fun _ => haveFPU s f [rs3, rs2, rs1, rd]) (.F_MADD_TYPE f rs3 rs2 rs1 rm rd)),
    if opFp then
      firstClause [
        rm.bind (fun rm => guarded encdecFBinRmOp (bits w 27 5)
          (fun _ => haveFPU s f [rs2, rs1, rd]) (.F_BIN_RM_TYPE f rs2 rs1 rm rd)),
        rm.bind (fun rm => guarded encdecFUnRmOp (bits w 27 5 ++ bits w 20 5)
          (fun op => op.guard s f rs1 rd) (.F_UN_RM_TYPE f rs1 rm rd)),
        guarded encdecFBinOp (bits w 27 5 ++ bits w 12 3)
          (fun op => op.guard s f rs2 rs1 rd) (.F_BIN_TYPE f rs2 rs1 rd),
        if rs2 == 0b00000#5 then
          guarded encdecFUnOp (bits w 27 5 ++ bits w 12 3) (fun op => op.guard s f rs1)
            (.F_UN_TYPE f rs1 rd)
        else none]
    else none]

/-- The clauses of `encdec` for conversions from the format `f` to the format `g`, read
backwards.  The word has `g` where the others have their format. -/
def FpInst.decodeConversion (s : State) (w : BitVec 32) (g : FpFormat) : Option FpInst :=
  if bits w 0 7 == 0b1010011#7 && bits w 27 5 == 0b01000#5 && bits w 22 3 == 0b000#3 then
    (fpFormatOf (bits w 20 2)).bind (fun f => (decodeRoundingMode (bits w 12 3)).bind (fun rm =>
      clause (haveConversion s f g (rs1Of w) (rdOf w))
        (.F_UN_RM_TYPE f (rs1Of w) rm (rdOf w) (.FCVT_F g))))
  else none

/-- The clauses of `encdec` for floating-point instructions, read backwards. -/
def FpInst.decode (s : State) (w : BitVec 32) : Option FpInst :=
  firstClause [
    if bits w 0 7 == 0b0000111#7 then
      (haveFpAccess s w).map (.LOAD_FP (bits w 20 12) (rs1Of w) (rdOf w))
    else none,
    if bits w 0 7 == 0b0100111#7 then
      (haveFpAccess s w).map (.STORE_FP (bits w 25 7 ++ bits w 7 5) (rs2Of w) (rs1Of w))
    else none,
    (fpFormatOf (bits w 25 2)).bind (FpInst.decodeOp s w),
    (fpFormatOf (bits w 25 2)).bind (FpInst.decodeConversion s w)]

/-! ## Loads and stores -/

/-- `process_fload16`, `process_fload32` and `process_fload64`, apart from the check of the
register width in the last one. -/
def processFload {n : ℕ} (rd : Regidx) (addr : Xlenbits) (value : MemoryOpResult (BitVec n)) :
    M Retired :=
  onMemValue (memFault addr) value fun result => do
    wF rd (nanBox result)
    pure .RETIRE_SUCCESS

/-- `process_fload64`. -/
def processFload64 (rd : Regidx) (addr : Xlenbits) (value : MemoryOpResult (BitVec 64)) :
    M Retired :=
  if flen = 64 then processFload rd addr value else pure .RETIRE_FAIL

/-- `size_mnemonic`. -/
def sizeMnemonic : WordWidth → String
  | .BYTE => "b"
  | .HALF => "h"
  | .WORD => "w"
  | .DOUBLE => "d"

/-- `report_invalid_width`. -/
def reportInvalidWidth {α : Type} (w : WordWidth) (k : String) : M α :=
  internalError ("Invalid width, " ++ sizeMnemonic w ++ ", for " ++ k ++ " with xlen="
    ++ toString xlen)

/-- The load of `LOAD_FP`. -/
def loadFp (rd : Regidx) (vaddr addr : Xlenbits) : WordWidth → M Retired
  | .BYTE => illegal
  | .HALF => do processFload rd vaddr (← memRead .Read addr 2 false false false)
  | .WORD => do processFload rd vaddr (← memRead .Read addr 4 false false false)
  | .DOUBLE =>
      if flen ≥ 64 then do processFload64 rd vaddr (← memRead .Read addr 8 false false false)
      else reportInvalidWidth .DOUBLE "floating point load"

/-- `execute LOAD_FP`. -/
def executeLoadFp (imm : BitVec 12) (rs1 rd : Regidx) (width : WordWidth) : M Retired := do
  let vaddr ← extDataGetAddr rs1 (imm.signExtend xlen)
  if checkMisaligned vaddr width then memFault vaddr .E_Load_Addr_Align
  else
    onAddress (memFault vaddr) (← translateAddr vaddr .Read) fun addr => loadFp rd vaddr addr width

/-- The announcement of the store of `STORE_FP`; the placeholder for a byte succeeds. -/
def storeFpEa (addr : Xlenbits) : WordWidth → M (MemoryOpResult Unit)
  | .BYTE => pure (.MemValue ())
  | width => Exec.checks (fun _ => memWriteEa addr (sizeBytes width) false false false)

/-- A store of `n` bytes of a floating-point register. -/
def storeFpBytes (vaddr addr : Xlenbits) (n : ℕ) (rs2Val : BitVec flen) : M Retired := do
  onStored (memFault vaddr)
    (← memWriteValue addr n (rs2Val.extractLsb' 0 (8 * n)) false false false)
    "store got false from mem_write_value" (pure .RETIRE_SUCCESS)

/-- The store of `STORE_FP`. -/
def storeFp (vaddr addr : Xlenbits) (rs2Val : BitVec flen) : WordWidth → M Retired
  | .BYTE => illegal
  | .HALF => storeFpBytes vaddr addr 2 rs2Val
  | .WORD => storeFpBytes vaddr addr 4 rs2Val
  | .DOUBLE =>
      if flen ≥ 64 then storeFpBytes vaddr addr 8 rs2Val
      else reportInvalidWidth .DOUBLE "floating point store"

/-- `execute STORE_FP`. -/
def executeStoreFp (imm : BitVec 12) (rs2 rs1 : Regidx) (width : WordWidth) : M Retired := do
  let vaddr ← extDataGetAddr rs1 (imm.signExtend xlen)
  if checkMisaligned vaddr width then memFault vaddr .E_SAMO_Addr_Align
  else
    onAddress (memFault vaddr) (← translateAddr vaddr .Write) fun addr => do
      onMemValue (memFault vaddr) (← storeFpEa addr width) fun _ => do
        storeFp vaddr addr (← rF rs2) width

/-! ## Operations -/

variable [SoftFloat]

/-- `{ accrue_fflags(fflags); F_or_X(rd) = v; RETIRE_SUCCESS }`. -/
def retireF (f : FpFormat) (rd : Regidx) (r : Fflags × BitVec f.width) : M Retired := do
  accrueFflags r.1
  wFOrX f rd r.2
  pure .RETIRE_SUCCESS

/-- `{ accrue_fflags(fflags); X(rd) = v; RETIRE_SUCCESS }`. -/
def retireFlagsX (rd : Regidx) (fflags : Fflags) (v : Xlenbits) : M Retired := do
  accrueFflags fflags
  retireX rd v

/-- The result of `F_MADD_TYPE_S` and its copies. -/
def FMaddOp.result {f : FpFormat} (op : FMaddOp) (rm : BitVec 3) (v1 v2 v3 : BitVec f.width) :
    Fflags × BitVec f.width :=
  match op with
  | .FMADD => SoftFloat.mulAdd f rm v1 v2 v3
  | .FMSUB => SoftFloat.mulAdd f rm v1 v2 (fnegate v3)
  | .FNMSUB => SoftFloat.mulAdd f rm (fnegate v1) v2 v3
  | .FNMADD => SoftFloat.mulAdd f rm (fnegate v1) v2 (fnegate v3)

/-- The result of `F_BIN_RM_TYPE_S` and its copies. -/
def FBinRmOp.result {f : FpFormat} (op : FBinRmOp) (rm : BitVec 3) (v1 v2 : BitVec f.width) :
    Fflags × BitVec f.width :=
  match op with
  | .FADD => SoftFloat.add f rm v1 v2
  | .FSUB => SoftFloat.sub f rm v1 v2
  | .FMUL => SoftFloat.mul f rm v1 v2
  | .FDIV => SoftFloat.div f rm v1 v2

/-- A conversion to an integer of `n` bits. -/
def convertToInt {n : ℕ} (f : FpFormat) (rs1 : Regidx) (rm : RoundingMode) (rd : Regidx)
    (conv : BitVec 3 → BitVec f.width → Fflags × BitVec n) : M Retired := do
  let v ← rFOrX f rs1
  withRm rm fun rm3 => retireFlagsX rd (conv rm3 v).1 ((conv rm3 v).2.signExtend xlen)

/-- A conversion from an integer of `n` bits. -/
def convertOfInt {n : ℕ} (f : FpFormat) (rs1 : Regidx) (rm : RoundingMode) (rd : Regidx)
    (conv : BitVec 3 → BitVec n → Fflags × BitVec f.width) : M Retired := do
  let v : BitVec n := (← rX rs1).extractLsb' 0 n
  withRm rm fun rm3 => retireF f rd (conv rm3 v)

/-- A conversion to an integer of 64 bits. -/
def convertToLong (f : FpFormat) (rs1 : Regidx) (rm : RoundingMode) (rd : Regidx)
    (conv : BitVec 3 → BitVec f.width → Fflags × BitVec 64) : M Retired := do
  assert (decide (xlen ≥ 64)) ""
  convertToInt f rs1 rm rd conv

/-- A conversion from an integer of 64 bits. -/
def convertOfLong (f : FpFormat) (rs1 : Regidx) (rm : RoundingMode) (rd : Regidx)
    (conv : BitVec 3 → BitVec 64 → Fflags × BitVec f.width) : M Retired := do
  assert (decide (xlen ≥ 64)) ""
  convertOfInt f rs1 rm rd conv

/-- `execute F_UN_RM_TYPE_S` and its copies. -/
def executeFUnRm (f : FpFormat) (rs1 : Regidx) (rm : RoundingMode) (rd : Regidx) :
    FUnRmOp → M Retired
  | .FSQRT => do
      let v ← rFOrX f rs1
      withRm rm fun rm3 => retireF f rd (SoftFloat.sqrt f rm3 v)
  | .FCVT_W => convertToInt f rs1 rm rd (SoftFloat.toI f 32)
  | .FCVT_WU => convertToInt f rs1 rm rd (SoftFloat.toUi f 32)
  | .FCVT_F_W => convertOfInt f rs1 rm rd (SoftFloat.ofI f 32)
  | .FCVT_F_WU => convertOfInt f rs1 rm rd (SoftFloat.ofUi f 32)
  | .FCVT_L => convertToLong f rs1 rm rd (SoftFloat.toI f 64)
  | .FCVT_LU => convertToLong f rs1 rm rd (SoftFloat.toUi f 64)
  | .FCVT_F_L => convertOfLong f rs1 rm rd (SoftFloat.ofI f 64)
  | .FCVT_F_LU => convertOfLong f rs1 rm rd (SoftFloat.ofUi f 64)
  | .FCVT_F g => do
      let v ← rFOrX f rs1
      withRm rm fun rm3 => retireF g rd (SoftFloat.convert f g rm3 v)

/-- `{ F_or_X(rd) = v; RETIRE_SUCCESS }`. -/
def retireSign (f : FpFormat) (rd : Regidx) (v : BitVec f.width) : M Retired := do
  wFOrX f rd v
  pure .RETIRE_SUCCESS

/-- The comparisons: `{ accrue_fflags(fflags); X(rd) = b; RETIRE_SUCCESS }`. -/
def retireCompare (rd : Regidx) (r : Fflags × Bool) : M Retired :=
  retireFlagsX rd r.1 (boolToXlen r.2)

/-- The end of `F_BIN_TYPE_S` and its copies, after the operands are read. -/
def FBinOp.finish {f : FpFormat} (rd : Regidx) (v1 v2 : BitVec f.width) : FBinOp → M Retired
  | .FSGNJ => retireSign f rd (fmake (fsign v2) (fexp v1) (fmant v1))
  | .FSGNJN => retireSign f rd (fmake (0b1#1 ^^^ fsign v2) (fexp v1) (fmant v1))
  | .FSGNJX => retireSign f rd (fmake (fsign v1 ^^^ fsign v2) (fexp v1) (fmant v1))
  | .FMIN => retireF f rd (fminResult v1 v2)
  | .FMAX => retireF f rd (fmaxResult v1 v2)
  | .FEQ => retireCompare rd (SoftFloat.eq f v1 v2)
  | .FLT => retireCompare rd (SoftFloat.lt f v1 v2)
  | .FLE => retireCompare rd (SoftFloat.le f v1 v2)

/-- The assertion of `FMV_X_D` and `FMV_D_X`. -/
def assertMove : FpFormat → M Unit
  | .D => assert (decide (xlen ≥ 64) && decide (flen ≥ 64)) ""
  | _ => pure ()

/-- `execute F_UN_TYPE_S` and its copies. -/
def executeFUn (f : FpFormat) (rs1 rd : Regidx) : FUnOp → M Retired
  | .FCLASS => do retireX rd ((fclassResult (← rFOrX f rs1)).setWidth xlen)
  | .FMV_X_F => do
      assertMove f
      retireX rd (((← rF rs1).extractLsb' 0 f.width).signExtend xlen)
  | .FMV_F_X => do
      assertMove f
      let v : BitVec f.width := (← rX rs1).extractLsb' 0 f.width
      wF rd (nanBox v)
      pure .RETIRE_SUCCESS

/-! ## Execution -/

/-- `execute`. -/
def FpInst.execute : FpInst → M Retired
  | .LOAD_FP imm rs1 rd width => executeLoadFp imm rs1 rd width
  | .STORE_FP imm rs2 rs1 width => executeStoreFp imm rs2 rs1 width
  | .F_MADD_TYPE f rs3 rs2 rs1 rm rd op => do
      let v1 ← rFOrX f rs1
      let v2 ← rFOrX f rs2
      let v3 ← rFOrX f rs3
      withRm rm fun rm3 => retireF f rd (op.result rm3 v1 v2 v3)
  | .F_BIN_RM_TYPE f rs2 rs1 rm rd op => do
      let v1 ← rFOrX f rs1
      let v2 ← rFOrX f rs2
      withRm rm fun rm3 => retireF f rd (op.result rm3 v1 v2)
  | .F_UN_RM_TYPE f rs1 rm rd op => executeFUnRm f rs1 rm rd op
  | .F_BIN_TYPE f rs2 rs1 rd op => do
      let v1 ← rFOrX f rs1
      let v2 ← rFOrX f rs2
      op.finish rd v1 v2
  | .F_UN_TYPE f rs1 rd op => executeFUn f rs1 rd op

end SailRiscv
