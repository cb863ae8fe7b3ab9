/-
# Compressed instructions

`riscv_insts_zca.sail`, `riscv_insts_zcb.sail`, `riscv_insts_zcf.sail`, `riscv_insts_zcd.sail`
and the compressed hints of `riscv_insts_hints.sail`.  Nearly every clause executes an
instruction of 32 bits.
-/
import SailRiscv.Insts.Base
import SailRiscv.Insts.Bext
import SailRiscv.Insts.Mext
import SailRiscv.Insts.Fext

namespace SailRiscv

open Bits Platform

/-! ## Registers -/

/-- `cregidx`. -/
abbrev Cregidx := BitVec 3

/-- `creg2reg_idx`. -/
def creg2regIdx (creg : Cregidx) : Regidx := 0b01#2 ++ creg

/-- `zreg`. -/
def zreg : Regidx := 0b00000#5

/-- `ra`. -/
def ra : Regidx := 0b00001#5

/-- `sp`. -/
def sp : Regidx := 0b00010#5

/-! ## Syntax -/

/-- The clauses of `ast` for compressed instructions. -/
inductive ZcaInst where
  | C_NOP
  | C_ADDI4SPN (rdc : Cregidx) (nzimm : BitVec 8)
  | C_LW (uimm : BitVec 5) (rsc rdc : Cregidx)
  | C_LD (uimm : BitVec 5) (rsc rdc : Cregidx)
  | C_SW (uimm : BitVec 5) (rsc1 rsc2 : Cregidx)
  | C_SD (uimm : BitVec 5) (rsc1 rsc2 : Cregidx)
  | C_ADDI (nzi : BitVec 6) (rsd : Regidx)
  | C_JAL (imm : BitVec 11)
  | C_ADDIW (imm : BitVec 6) (rsd : Regidx)
  | C_LI (imm : BitVec 6) (rd : Regidx)
  | C_ADDI16SP (imm : BitVec 6)
  | C_LUI (imm : BitVec 6) (rd : Regidx)
  | C_SRLI (shamt : BitVec 6) (rsd : Cregidx)
  | C_SRAI (shamt : BitVec 6) (rsd : Cregidx)
  | C_ANDI (imm : BitVec 6) (rsd : Cregidx)
  | C_SUB (rsd rs2 : Cregidx)
  | C_XOR (rsd rs2 : Cregidx)
  | C_OR (rsd rs2 : Cregidx)
  | C_AND (rsd rs2 : Cregidx)
  | C_SUBW (rsd rs2 : Cregidx)
  | C_ADDW (rsd rs2 : Cregidx)
  | C_J (imm : BitVec 11)
  | C_BEQZ (imm : BitVec 8) (rs : Cregidx)
  | C_BNEZ (imm : BitVec 8) (rs : Cregidx)
  | C_SLLI (shamt : BitVec 6) (rsd : Regidx)
  | C_LWSP (uimm : BitVec 6) (rd : Regidx)
  | C_LDSP (uimm : BitVec 6) (rd : Regidx)
  | C_SWSP (uimm : BitVec 6) (rs2 : Regidx)
  | C_SDSP (uimm : BitVec 6) (rs2 : Regidx)
  | C_JR (rs1 : Regidx)
  | C_JALR (rs1 : Regidx)
  | C_MV (rd rs2 : Regidx)
  | C_EBREAK
  | C_ADD (rsd rs2 : Regidx)
  deriving DecidableEq, Repr

/-- The clauses of `ast` for compressed hints. -/
inductive CHintInst where
  | C_NOP_HINT (imm : BitVec 6)
  | C_ADDI_HINT (rsd : Regidx)
  | C_LI_HINT (imm : BitVec 6)
  | C_LUI_HINT (imm : BitVec 6)
  | C_MV_HINT (rs2 : Regidx)
  | C_ADD_HINT (rs2 : Regidx)
  | C_SLLI_HINT (shamt : BitVec 6) (rsd : Regidx)
  | C_SRLI_HINT (rsd : Cregidx)
  | C_SRAI_HINT (rsd : Cregidx)
  deriving DecidableEq, Repr

/-- The clauses of `ast` for compressed floating-point loads and stores. -/
inductive ZcfInst where
  | C_FLWSP (imm : BitVec 6) (rd : Regidx)
  | C_FSWSP (uimm : BitVec 6) (rs2 : Regidx)
  | C_FLW (uimm : BitVec 5) (rsc rdc : Cregidx)
  | C_FSW (uimm : BitVec 5) (rsc1 rsc2 : Cregidx)
  | C_FLDSP (uimm : BitVec 6) (rd : Regidx)
  | C_FSDSP (uimm : BitVec 6) (rs2 : Regidx)
  | C_FLD (uimm : BitVec 5) (rsc rdc : Cregidx)
  | C_FSD (uimm : BitVec 5) (rsc1 rsc2 : Cregidx)
  deriving DecidableEq, Repr

/-- The clauses of `ast` for the additional compressed instructions. -/
inductive ZcbInst where
  | C_LBU (uimm : BitVec 2) (rdc rs1c : Cregidx)
  | C_LHU (uimm : BitVec 2) (rdc rs1c : Cregidx)
  | C_LH (uimm : BitVec 2) (rdc rs1c : Cregidx)
  | C_SB (uimm : BitVec 2) (rs1c rs2c : Cregidx)
  | C_SH (uimm : BitVec 2) (rs1c rs2c : Cregidx)
  | C_ZEXT_B (rsdc : Cregidx)
  | C_SEXT_B (rsdc : Cregidx)
  | C_ZEXT_H (rsdc : Cregidx)
  | C_SEXT_H (rsdc : Cregidx)
  | C_ZEXT_W (rsdc : Cregidx)
  | C_NOT (rsdc : Cregidx)
  | C_MUL (rsdc rs2c : Cregidx)
  deriving DecidableEq, Repr

variable [Platform]

/-! ## Decoding -/

/-- The funct3 and the opcode of a compressed instruction word. -/
def isC (h : BitVec 16) (funct3 : BitVec 3) (op : BitVec 2) : Bool :=
  bits h 13 3 == funct3 && bits h 0 2 == op

/-- The immediate in the bits 12 and 6..2. -/
def imm6Of (h : BitVec 16) : BitVec 6 := bits h 12 1 ++ bits h 2 5

/-- The register in the bits 11..7. -/
def rdcOf (h : BitVec 16) : Regidx := bits h 7 5

/-- The register in the bits 6..2. -/
def rs2cOf (h : BitVec 16) : Regidx := bits h 2 5

/-- The register in the bits 9..7. -/
def creg1Of (h : BitVec 16) : Cregidx := bits h 7 3

/-- The register in the bits 4..2. -/
def creg2Of (h : BitVec 16) : Cregidx := bits h 2 3

/-- The offset of `C_LW` and `C_SW`. -/
def wordOffset (h : BitVec 16) : BitVec 5 := bits h 5 1 ++ bits h 10 3 ++ bits h 6 1

/-- The offset of `C_LD` and `C_SD`. -/
def doubleOffset (h : BitVec 16) : BitVec 5 := bits h 5 2 ++ bits h 10 3

/-- The offset of `C_LWSP`. -/
def wordLoadSp (h : BitVec 16) : BitVec 6 := bits h 2 2 ++ bits h 12 1 ++ bits h 4 3

/-- The offset of `C_LDSP`. -/
def doubleLoadSp (h : BitVec 16) : BitVec 6 := bits h 2 3 ++ bits h 12 1 ++ bits h 5 2

/-- The offset of `C_SWSP`. -/
def wordStoreSp (h : BitVec 16) : BitVec 6 := bits h 7 2 ++ bits h 9 4

/-- The offset of `C_SDSP`. -/
def doubleStoreSp (h : BitVec 16) : BitVec 6 := bits h 7 3 ++ bits h 10 3

/-- The offset of `C_J` and `C_JAL`. -/
def jumpOffset (h : BitVec 16) : BitVec 11 :=
  bits h 12 1 ++ bits h 8 1 ++ bits h 9 2 ++ bits h 6 1 ++ bits h 7 1 ++ bits h 2 1
    ++ bits h 11 1 ++ bits h 3 3

/-- The offset of `C_BEQZ` and `C_BNEZ`. -/
def branchOffset (h : BitVec 16) : BitVec 8 :=
  bits h 12 1 ++ bits h 5 2 ++ bits h 2 1 ++ bits h 10 2 ++ bits h 3 2

/-- The clauses of `encdec_compressed`, read backwards. -/
def ZcaInst.decode (s : State) (h : BitVec 16) : Option ZcaInst :=
  let zca := extensionEnabled s .Zca
  let rv64 := decide (xlen = 64)
  let imm6 := imm6Of h
  let rd := rdcOf h
  let rs2 := rs2cOf h
  let c1 := creg1Of h
  let c2 := creg2Of h
  let shift := imm6 != 0#6 && (rv64 || bits h 12 1 == 0#1) && zca
  let nzimm : BitVec 8 := bits h 7 4 ++ bits h 11 2 ++ bits h 5 1 ++ bits h 6 1
  let arith (f2 : BitVec 2) := isC h 0b100#3 0b01#2 && bits h 10 2 == f2
  let arith2 (b : BitVec 1) (f2 : BitVec 2) := arith 0b11#2 && bits h 12 1 == b && bits h 5 2 == f2
  firstClause [
    clause (h == 0b0000000000000001#16 && zca) .C_NOP,
    clause (isC h 0b000#3 0b00#2 && nzimm != 0#8 && zca) (.C_ADDI4SPN c2 nzimm),
    clause (isC h 0b010#3 0b00#2 && zca) (.C_LW (wordOffset h) c1 c2),
    clause (isC h 0b011#3 0b00#2 && rv64 && zca) (.C_LD (doubleOffset h) c1 c2),
    clause (isC h 0b110#3 0b00#2 && zca) (.C_SW (wordOffset h) c1 c2),
    clause (isC h 0b111#3 0b00#2 && rv64 && zca) (.C_SD (doubleOffset h) c1 c2),
    clause (isC h 0b000#3 0b01#2 && imm6 != 0#6 && rd != zreg && zca) (.C_ADDI imm6 rd),
    clause (isC h 0b001#3 0b01#2 && decide (xlen = 32) && zca) (.C_JAL (jumpOffset h)),
    clause (isC h 0b001#3 0b01#2 && rd != zreg && rv64 && zca) (.C_ADDIW imm6 rd),
    clause (isC h 0b010#3 0b01#2 && rd != zreg && zca) (.C_LI imm6 rd),
    (let nzi : BitVec 6 := bits h 12 1 ++ bits h 3 2 ++ bits h 5 1 ++ bits h 2 1 ++ bits h 6 1
     clause (isC h 0b011#3 0b01#2 && rd == 0b00010#5 && nzi != 0#6 && zca) (.C_ADDI16SP nzi)),
    clause (isC h 0b011#3 0b01#2 && rd != zreg && rd != sp && imm6 != 0#6 && zca)
      (.C_LUI imm6 rd),
    clause (arith 0b00#2 && shift) (.C_SRLI imm6 c1),
    clause (arith 0b01#2 && shift) (.C_SRAI imm6 c1),
    clause (arith 0b10#2 && zca) (.C_ANDI imm6 c1),
    clause (arith2 0#1 0b00#2 && zca) (.C_SUB c1 c2),
    clause (arith2 0#1 0b01#2 && zca) (.C_XOR c1 c2),
    clause (arith2 0#1 0b10#2 && zca) (.C_OR c1 c2),
    clause (arith2 0#1 0b11#2 && zca) (.C_AND c1 c2),
    clause (arith2 1#1 0b00#2 && rv64 && zca) (.C_SUBW c1 c2),
    clause (arith2 1#1 0b01#2 && rv64 && zca) (.C_ADDW c1 c2),
    clause (isC h 0b101#3 0b01#2 && zca) (.C_J (jumpOffset h)),
    clause (isC h 0b110#3 0b01#2 && zca) (.C_BEQZ (branchOffset h) c1),
    clause (isC h 0b111#3 0b01#2 && zca) (.C_BNEZ (branchOffset h) c1),
    clause (isC h 0b000#3 0b10#2 && rd != zreg && shift) (.C_SLLI imm6 rd),
    clause (isC h 0b010#3 0b10#2 && rd != zreg && zca) (.C_LWSP (wordLoadSp h) rd),
    clause (isC h 0b011#3 0b10#2 && rd != zreg && rv64 && zca) (.C_LDSP (doubleLoadSp h) rd),
    clause (isC h 0b110#3 0b10#2 && zca) (.C_SWSP (wordStoreSp h) rs2),
    clause (isC h 0b111#3 0b10#2 && rv64 && zca) (.C_SDSP (doubleStoreSp h) rs2),
    clause (isC h 0b100#3 0b10#2 && bits h 12 1 == 0#1 && rs2 == 0b00000#5 && rd != zreg && zca)
      (.C_JR rd),
    clause (isC h 0b100#3 0b10#2 && bits h 12 1 == 1#1 && rs2 == 0b00000#5 && rd != zreg && zca)
      (.C_JALR rd),
    clause (isC h 0b100#3 0b10#2 && bits h 12 1 == 0#1 && rd != zreg && rs2 != zreg && zca)
      (.C_MV rd rs2),
    clause (h == 0b1001000000000010#16 && zca) .C_EBREAK,
    clause (isC h 0b100#3 0b10#2 && bits h 12 1 == 1#1 && rd != zreg && rs2 != zreg && zca)
      (.C_ADD rd rs2)]

/-- The clauses of `encdec_compressed` for hints, read backwards. -/
def CHintInst.decode (h : BitVec 16) : Option CHintInst :=
  let imm6 := imm6Of h
  let rd := rdcOf h
  let rs2 := rs2cOf h
  let rv64 := decide (xlen = 64)
  let none12 := bits h 12 1 == 0#1
  firstClause [
    clause (isC h 0b000#3 0b01#2 && rd == 0b00000#5 && imm6 != 0#6) (.C_NOP_HINT imm6),
    clause (isC h 0b000#3 0b01#2 && none12 && rs2 == 0b00000#5 && rd != zreg) (.C_ADDI_HINT rd),
    clause (isC h 0b010#3 0b01#2 && rd == 0b00000#5) (.C_LI_HINT imm6),
    clause (isC h 0b011#3 0b01#2 && rd == 0b00000#5 && imm6 != 0#6) (.C_LUI_HINT imm6),
    clause (isC h 0b100#3 0b10#2 && none12 && rd == 0b00000#5 && rs2 != zreg) (.C_MV_HINT rs2),
    clause (isC h 0b100#3 0b10#2 && !none12 && rd == 0b00000#5 && rs2 != zreg) (.C_ADD_HINT rs2),
    clause (isC h 0b000#3 0b10#2 && (imm6 == 0#6 || rd == zreg) && (rv64 || none12))
      (.C_SLLI_HINT imm6 rd),
    clause (isC h 0b100#3 0b01#2 && none12 && bits h 10 2 == 0b00#2 && rs2 == 0b00000#5)
      (.C_SRLI_HINT (creg1Of h)),
    clause (isC h 0b100#3 0b01#2 && none12 && bits h 10 2 == 0b01#2 && rs2 == 0b00000#5)
      (.C_SRAI_HINT (creg1Of h))]

/-- The clauses of `encdec_compressed` for floating-point loads and stores, read backwards. -/
def ZcfInst.decode (s : State) (h : BitVec 16) : Option ZcfInst :=
  let zcf := extensionEnabled s .Zcf
  let zcd := extensionEnabled s .Zcd
  firstClause [
    clause (isC h 0b011#3 0b10#2 && zcf) (.C_FLWSP (wordLoadSp h) (rdcOf h)),
    clause (isC h 0b111#3 0b10#2 && zcf) (.C_FSWSP (wordStoreSp h) (rs2cOf h)),
    clause (isC h 0b011#3 0b00#2 && zcf) (.C_FLW (wordOffset h) (creg1Of h) (creg2Of h)),
    clause (isC h 0b111#3 0b00#2 && zcf) (.C_FSW (wordOffset h) (creg1Of h) (creg2Of h)),
    clause (isC h 0b001#3 0b10#2 && zcd) (.C_FLDSP (doubleLoadSp h) (rdcOf h)),
    clause (isC h 0b101#3 0b10#2 && zcd) (.C_FSDSP (doubleStoreSp h) (rs2cOf h)),
    clause (isC h 0b001#3 0b00#2 && zcd) (.C_FLD (doubleOffset h) (creg1Of h) (creg2Of h)),
    clause (isC h 0b101#3 0b00#2 && zcd) (.C_FSD (doubleOffset h) (creg1Of h) (creg2Of h))]

/-- The clauses of `encdec_compressed` for the additional instructions, read backwards. -/
def ZcbInst.decode (s : State) (h : BitVec 16) : Option ZcbInst :=
  let zcb := extensionEnabled s .Zcb
  let zbb := extensionEnabled s .Zbb
  let c1 := creg1Of h
  let c2 := creg2Of h
  let access (f3 : BitVec 3) := isC h 0b100#3 0b00#2 && bits h 10 3 == f3 && zcb
  let byte : BitVec 2 := bits h 5 1 ++ bits h 6 1
  let half : BitVec 2 := bits h 5 1 ++ 0#1
  let unary (f3 : BitVec 3) :=
    isC h 0b100#3 0b01#2 && bits h 10 3 == 0b111#3 && bits h 5 2 == 0b11#2 && c2 == f3 && zcb
  firstClause [
    clause (access 0b000#3) (.C_LBU byte c2 c1),
    clause (access 0b001#3 && bits h 6 1 == 0#1) (.C_LHU half c2 c1),
    clause (access 0b001#3 && bits h 6 1 == 1#1) (.C_LH half c2 c1),
    clause (access 0b010#3) (.C_SB byte c1 c2),
    clause (access 0b011#3 && bits h 6 1 == 0#1) (.C_SH half c1 c2),
    clause (unary 0b000#3) (.C_ZEXT_B c1),
    clause (unary 0b001#3 && zbb) (.C_SEXT_B c1),
    clause (unary 0b010#3 && zbb) (.C_ZEXT_H c1),
    clause (unary 0b011#3 && zbb) (.C_SEXT_H c1),
    clause (unary 0b100#3 && extensionEnabled s .Zba && decide (xlen = 64)) (.C_ZEXT_W c1),
    clause (unary 0b101#3) (.C_NOT c1),
    clause (isC h 0b100#3 0b01#2 && bits h 10 3 == 0b111#3 && bits h 5 2 == 0b10#2 && zcb
        && (extensionEnabled s .M || extensionEnabled s .Zmmul)) (.C_MUL c1 c2)]

/-! ## Execution -/

/-- The instruction of 32 bits that a clause executes; there is none for `C_NOP`. -/
def ZcaInst.base : ZcaInst → Option BaseInst
  | .C_NOP => none
  | .C_ADDI4SPN rdc nzimm =>
      some (.ITYPE (0b00#2 ++ nzimm ++ 0b00#2) sp (creg2regIdx rdc) .RISCV_ADDI)
  | .C_LW uimm rsc rdc => some (.LOAD ((uimm ++ 0b00#2).setWidth 12) (creg2regIdx rsc)
      (creg2regIdx rdc) false .WORD false false)
  | .C_LD uimm rsc rdc => some (.LOAD ((uimm ++ 0b000#3).setWidth 12) (creg2regIdx rsc)
      (creg2regIdx rdc) false .DOUBLE false false)
  | .C_SW uimm rsc1 rsc2 => some (.STORE ((uimm ++ 0b00#2).setWidth 12) (creg2regIdx rsc2)
      (creg2regIdx rsc1) .WORD false false)
  | .C_SD uimm rsc1 rsc2 => some (.STORE ((uimm ++ 0b000#3).setWidth 12) (creg2regIdx rsc2)
      (creg2regIdx rsc1) .DOUBLE false false)
  | .C_ADDI nzi rsd => some (.ITYPE (nzi.signExtend 12) rsd rsd .RISCV_ADDI)
  | .C_JAL imm => some (.RISCV_JAL ((imm ++ 0b0#1).signExtend 21) ra)
  | .C_ADDIW imm rsd => some (.ADDIW (imm.signExtend 12) rsd rsd)
  | .C_LI imm rd => some (.ITYPE (imm.signExtend 12) zreg rd .RISCV_ADDI)
  | .C_ADDI16SP imm => some (.ITYPE ((imm ++ 0x0#4).signExtend 12) sp sp .RISCV_ADDI)
  | .C_LUI imm rd => some (.UTYPE (imm.signExtend 20) rd .RISCV_LUI)
  | .C_SRLI shamt rsd => some (.SHIFTIOP shamt (creg2regIdx rsd) (creg2regIdx rsd) .RISCV_SRLI)
  | .C_SRAI shamt rsd => some (.SHIFTIOP shamt (creg2regIdx rsd) (creg2regIdx rsd) .RISCV_SRAI)
  | .C_ANDI imm rsd =>
      some (.ITYPE (imm.signExtend 12) (creg2regIdx rsd) (creg2regIdx rsd) .RISCV_ANDI)
  | .C_SUB rsd rs2 =>
      some (.RTYPE (creg2regIdx rs2) (creg2regIdx rsd) (creg2regIdx rsd) .RISCV_SUB)
  | .C_XOR rsd rs2 =>
      some (.RTYPE (creg2regIdx rs2) (creg2regIdx rsd) (creg2regIdx rsd) .RISCV_XOR)
  | .C_OR rsd rs2 =>
      some (.RTYPE (creg2regIdx rs2) (creg2regIdx rsd) (creg2regIdx rsd) .RISCV_OR)
  | .C_AND rsd rs2 =>
      some (.RTYPE (creg2regIdx rs2) (creg2regIdx rsd) (creg2regIdx rsd) .RISCV_AND)
  | .C_SUBW rsd rs2 =>
      some (.RTYPEW (creg2regIdx rs2) (creg2regIdx rsd) (creg2regIdx rsd) .RISCV_SUBW)
  | .C_ADDW rsd rs2 =>
      some (.RTYPEW (creg2regIdx rs2) (creg2regIdx rsd) (creg2regIdx rsd) .RISCV_ADDW)
  | .C_J imm => some (.RISCV_JAL ((imm ++ 0b0#1).signExtend 21) zreg)
  | .C_BEQZ imm rs =>
      some (.BTYPE ((imm ++ 0b0#1).signExtend 13) zreg (creg2regIdx rs) .RISCV_BEQ)
  | .C_BNEZ imm rs =>
      some (.BTYPE ((imm ++ 0b0#1).signExtend 13) zreg (creg2regIdx rs) .RISCV_BNE)
  | .C_SLLI shamt rsd => some (.SHIFTIOP shamt rsd rsd .RISCV_SLLI)
  | .C_LWSP uimm rd => some (.LOAD ((uimm ++ 0b00#2).setWidth 12) sp rd false .WORD false false)
  | .C_LDSP uimm rd =>
      some (.LOAD ((uimm ++ 0b000#3).setWidth 12) sp rd false .DOUBLE false false)
  | .C_SWSP uimm rs2 => some (.STORE ((uimm ++ 0b00#2).setWidth 12) rs2 sp .WORD false false)
  | .C_SDSP uimm rs2 => some (.STORE ((uimm ++ 0b000#3).setWidth 12) rs2 sp .DOUBLE false false)
  | .C_JR rs1 => some (.RISCV_JALR 0#12 rs1 zreg)
  | .C_JALR rs1 => some (.RISCV_JALR 0#12 rs1 ra)
  | .C_MV rd rs2 => some (.RTYPE rs2 zreg rd .RISCV_ADD)
  | .C_EBREAK => some .EBREAK
  | .C_ADD rsd rs2 => some (.RTYPE rs2 rsd rsd .RISCV_ADD)

/-- `execute`. -/
def ZcaInst.execute (i : ZcaInst) : M Retired :=
  match i.base with
  | none => pure .RETIRE_SUCCESS
  | some b => b.execute

/-- `execute`: a hint does nothing. -/
def CHintInst.execute (_ : CHintInst) : M Retired := pure .RETIRE_SUCCESS

/-- `execute`. -/
def ZcfInst.execute : ZcfInst → M Retired
  | .C_FLWSP imm rd => executeLoadFp ((imm ++ 0b00#2).setWidth 12) sp rd .WORD
  | .C_FSWSP uimm rs2 => executeStoreFp ((uimm ++ 0b00#2).setWidth 12) rs2 sp .WORD
  | .C_FLW uimm rsc rdc =>
      executeLoadFp ((uimm ++ 0b00#2).setWidth 12) (creg2regIdx rsc) (creg2regIdx rdc) .WORD
  | .C_FSW uimm rsc1 rsc2 =>
      executeStoreFp ((uimm ++ 0b00#2).setWidth 12) (creg2regIdx rsc2) (creg2regIdx rsc1) .WORD
  | .C_FLDSP uimm rd => executeLoadFp ((uimm ++ 0b000#3).setWidth 12) sp rd .DOUBLE
  | .C_FSDSP uimm rs2 => executeStoreFp ((uimm ++ 0b000#3).setWidth 12) rs2 sp .DOUBLE
  | .C_FLD uimm rsc rdc =>
      executeLoadFp ((uimm ++ 0b000#3).setWidth 12) (creg2regIdx rsc) (creg2regIdx rdc) .DOUBLE
  | .C_FSD uimm rsc1 rsc2 =>
      executeStoreFp ((uimm ++ 0b000#3).setWidth 12) (creg2regIdx rsc2) (creg2regIdx rsc1) .DOUBLE

/-- `execute`. -/
def ZcbInst.execute : ZcbInst → M Retired
  | .C_LBU uimm rdc rs1c =>
      executeLoad (uimm.setWidth 12) (creg2regIdx rs1c) (creg2regIdx rdc) true .BYTE false false
  | .C_LHU uimm rdc rs1c =>
      executeLoad (uimm.setWidth 12) (creg2regIdx rs1c) (creg2regIdx rdc) true .HALF false false
  | .C_LH uimm rdc rs1c =>
      executeLoad (uimm.setWidth 12) (creg2regIdx rs1c) (creg2regIdx rdc) false .HALF false false
  | .C_SB uimm rs1c rs2c =>
      executeStore (uimm.setWidth 12) (creg2regIdx rs2c) (creg2regIdx rs1c) .BYTE false false
  | .C_SH uimm rs1c rs2c =>
      executeStore (uimm.setWidth 12) (creg2regIdx rs2c) (creg2regIdx rs1c) .HALF false false
  | .C_ZEXT_B rsdc => do
      let v ← rX (creg2regIdx rsdc)
      retireX (creg2regIdx rsdc) ((bits v 0 8).setWidth xlen)
  | .C_SEXT_B rsdc =>
      ZbbInst.execute (.ZBB_EXTOP (creg2regIdx rsdc) (creg2regIdx rsdc) .RISCV_SEXTB)
  | .C_ZEXT_H rsdc =>
      ZbbInst.execute (.ZBB_EXTOP (creg2regIdx rsdc) (creg2regIdx rsdc) .RISCV_ZEXTH)
  | .C_SEXT_H rsdc =>
      ZbbInst.execute (.ZBB_EXTOP (creg2regIdx rsdc) (creg2regIdx rsdc) .RISCV_SEXTH)
  | .C_ZEXT_W rsdc =>
      ZbaInst.execute (.ZBA_RTYPEUW 0b00000#5 (creg2regIdx rsdc) (creg2regIdx rsdc) .RISCV_ADDUW)
  | .C_NOT rsdc => do
      let v ← rX (creg2regIdx rsdc)
      retireX (creg2regIdx rsdc) (~~~v)
  | .C_MUL rsdc rs2c =>
      MulInst.execute (.MUL (creg2regIdx rs2c) (creg2regIdx rsdc) (creg2regIdx rsdc)
        ⟨false, true, true⟩)

/-! ## What execution does -/

omit [Platform] in
/-- The jump offsets of compressed instructions are even. -/
theorem ZcaInst.evenOffset {i : ZcaInst} {b : BaseInst} (h : i.base = some b) :
    b ≠ .MRET ∧ b ≠ .SRET ∧ b.EvenOffset := by
  have even {m n : ℕ} (imm : BitVec m) :
      ((imm ++ (0 : BitVec 1)).signExtend (n + 1)).getLsbD 0 = false := by
    rw [BitVec.getLsbD_signExtend, BitVec.getLsbD_append]
    rfl
  cases i <;> cases h <;> refine ⟨nofun, nofun, ?_⟩ <;> first
    | trivial
    | exact even _

omit [Platform] in
/-- No compressed instruction is a `WFI`. -/
theorem ZcaInst.base_ne_wfi {i : ZcaInst} {b : BaseInst} (h : i.base = some b) : b ≠ .WFI := by
  cases i <;> cases h <;> rintro ⟨⟩

variable {R : State → State → Prop} [CoreRel R]

/-- The compressed instructions that call the cache simulator. -/
def ZcaInst.Traced (i : ZcaInst) : Prop := ∃ b, i.base = some b ∧ b.Traced

/-- A compressed instruction does an integer step and retires or takes one exception. -/
theorem ZcaInst.settles {i : ZcaInst} (ht : i.Traced → TraceClosed R) :
    Exec.Settles R SyncTrap Failed i.execute := by
  unfold ZcaInst.execute
  cases h : i.base with
  | none => infer_instance
  | some b =>
      obtain ⟨hm, hs, heven⟩ := ZcaInst.evenOffset h
      exact BaseInst.settles (fun hb => ht ⟨b, h, hb⟩) hm hs (fun hw => absurd hw (ZcaInst.base_ne_wfi h)) heven

instance CHintInst.settles (i : CHintInst) :
    Exec.Settles R SyncTrap Failed i.execute := by
  unfold CHintInst.execute
  infer_instance

/-- The additional compressed instructions that call the cache simulator. -/
def ZcbInst.Traced : ZcbInst → Prop
  | .C_LBU .. | .C_LHU .. | .C_LH .. | .C_SB .. | .C_SH .. => True
  | _ => False

theorem ZcbInst.settles {i : ZcbInst} (ht : i.Traced → TraceClosed R) :
    Exec.Settles R SyncTrap Failed i.execute := by
  unfold ZcbInst.execute
  cases i
  case C_LBU | C_LHU | C_LH | C_SB | C_SH =>
    have := ht trivial
    infer_instance
  all_goals infer_instance

end SailRiscv
