/-
# Encoding of compressed instructions

`encdec_compressed`, read forwards.  Each clause has the same condition on its two sides.

A word is `funct3 @ fields @ op`; its eleven bits in the middle have one of a few shapes, in which
the bits of an offset stand in an order of their own.
-/
import SailRiscv.Insts.Ast

namespace SailRiscv

open Bits Platform

/-! ## Shapes of words -/

/-- `funct3 @ bit @ rd @ rs2 @ op`. -/
def regWord (funct3 : BitVec 3) (bit : BitVec 1) (rd rs2 : Regidx) (op : BitVec 2) : BitVec 16 :=
  funct3 ++ bit ++ rd ++ rs2 ++ op

/-- `funct3 @ high @ rs1 @ low @ rs2 @ op`. -/
def cregWord (funct3 high : BitVec 3) (rs1 : Cregidx) (low : BitVec 2) (rs2 : Cregidx)
    (op : BitVec 2) : BitVec 16 :=
  funct3 ++ high ++ rs1 ++ low ++ rs2 ++ op

/-- `funct3 @ imm5 @ rd @ imm40 @ op`. -/
def immWord (funct3 : BitVec 3) (imm : BitVec 6) (rd : Regidx) (op : BitVec 2) : BitVec 16 :=
  regWord funct3 (bits imm 5 1) rd (bits imm 0 5) op

/-- `0b100 @ imm5 @ funct2 @ rsd @ imm40 @ 0b01`. -/
def cimmWord (funct2 : BitVec 2) (imm : BitVec 6) (rsd : Cregidx) : BitVec 16 :=
  cregWord 0b100#3 (bits imm 5 1 ++ funct2) rsd (bits imm 3 2) (bits imm 0 3) 0b01#2

/-- `0b100 @ bit @ 0b11 @ rsd @ funct2 @ rs2 @ 0b01`. -/
def arithWord (bit : BitVec 1) (rsd : Cregidx) (funct2 : BitVec 2) (rs2 : Cregidx) : BitVec 16 :=
  cregWord 0b100#3 (bit ++ 0b11#2) rsd funct2 rs2 0b01#2

/-- `funct3 @ ui53 @ rs1 @ ui2 @ ui6 @ rs2 @ 0b00`. -/
def wordAccess (funct3 : BitVec 3) (ui : BitVec 5) (rs1 rs2 : Cregidx) : BitVec 16 :=
  cregWord funct3 (bits ui 1 3) rs1 (bits ui 0 1 ++ bits ui 4 1) rs2 0b00#2

/-- `funct3 @ ui53 @ rs1 @ ui76 @ rs2 @ 0b00`. -/
def doubleAccess (funct3 : BitVec 3) (ui : BitVec 5) (rs1 rs2 : Cregidx) : BitVec 16 :=
  cregWord funct3 (bits ui 0 3) rs1 (bits ui 3 2) rs2 0b00#2

/-- `0b100 @ high @ rs1 @ uimm0 @ uimm1 @ rs2 @ 0b00`. -/
def byteAccess (high : BitVec 3) (uimm : BitVec 2) (rs1 rs2 : Cregidx) : BitVec 16 :=
  cregWord 0b100#3 high rs1 (bits uimm 0 1 ++ bits uimm 1 1) rs2 0b00#2

/-- `0b100 @ high @ rs1 @ bit @ uimm1 @ rs2 @ 0b00`. -/
def halfAccess (high : BitVec 3) (bit : BitVec 1) (uimm : BitVec 2) (rs1 rs2 : Cregidx) :
    BitVec 16 :=
  cregWord 0b100#3 high rs1 (bit ++ bits uimm 1 1) rs2 0b00#2

/-- `funct3 @ ui5 @ rd @ ui42 @ ui76 @ 0b10`. -/
def wordFromStack (funct3 : BitVec 3) (ui : BitVec 6) (rd : Regidx) : BitVec 16 :=
  regWord funct3 (bits ui 3 1) rd (bits ui 0 3 ++ bits ui 4 2) 0b10#2

/-- `funct3 @ ui5 @ rd @ ui43 @ ui86 @ 0b10`. -/
def doubleFromStack (funct3 : BitVec 3) (ui : BitVec 6) (rd : Regidx) : BitVec 16 :=
  regWord funct3 (bits ui 2 1) rd (bits ui 0 2 ++ bits ui 3 3) 0b10#2

/-- `funct3 @ ui52 @ ui76 @ rs2 @ 0b10`. -/
def wordToStack (funct3 : BitVec 3) (ui : BitVec 6) (rs2 : Regidx) : BitVec 16 :=
  funct3 ++ bits ui 0 4 ++ bits ui 4 2 ++ rs2 ++ 0b10#2

/-- `funct3 @ ui53 @ ui86 @ rs2 @ 0b10`. -/
def doubleToStack (funct3 : BitVec 3) (ui : BitVec 6) (rs2 : Regidx) : BitVec 16 :=
  funct3 ++ bits ui 0 3 ++ bits ui 3 3 ++ rs2 ++ 0b10#2

/-- `funct3 @ i11 @ i4 @ i98 @ i10 @ i6 @ i7 @ i31 @ i5 @ 0b01`. -/
def jumpWord (funct3 : BitVec 3) (imm : BitVec 11) : BitVec 16 :=
  funct3 ++ bits imm 10 1 ++ bits imm 3 1 ++ bits imm 7 2 ++ bits imm 9 1 ++ bits imm 5 1
    ++ bits imm 6 1 ++ bits imm 0 3 ++ bits imm 4 1 ++ 0b01#2

/-- `funct3 @ i8 @ i43 @ rs @ i76 @ i21 @ i5 @ 0b01`. -/
def branchWord (funct3 : BitVec 3) (imm : BitVec 8) (rs : Cregidx) : BitVec 16 :=
  funct3 ++ bits imm 7 1 ++ bits imm 2 2 ++ rs ++ bits imm 5 2 ++ bits imm 0 2 ++ bits imm 4 1
    ++ 0b01#2

/-- `0b000 @ nz54 @ nz96 @ nz2 @ nz3 @ rd @ 0b00`. -/
def addi4spnWord (nzimm : BitVec 8) (rd : Cregidx) : BitVec 16 :=
  0b000#3 ++ bits nzimm 2 2 ++ bits nzimm 4 4 ++ bits nzimm 0 1 ++ bits nzimm 1 1 ++ rd ++ 0b00#2

/-- `0b011 @ nzi9 @ 0b00010 @ nzi4 @ nzi6 @ nzi87 @ nzi5 @ 0b01`. -/
def addi16spWord (nzi : BitVec 6) : BitVec 16 :=
  0b011#3 ++ bits nzi 5 1 ++ 0b00010#5 ++ bits nzi 0 1 ++ bits nzi 2 1 ++ bits nzi 3 2
    ++ bits nzi 1 1 ++ 0b01#2

variable [Platform]

/-! ## The clauses -/

/-- The clauses of `encdec_compressed`. -/
def ZcaInst.encode (s : State) (i : ZcaInst) : Option (BitVec 16) :=
  let zca := extensionEnabled s .Zca
  let rv64 := decide (xlen = 64)
  let shift (nzui : BitVec 6) := nzui != 0b000000#6 && (rv64 || bits nzui 5 1 == 0b0#1) && zca
  match i with
  | .C_NOP => clause zca (regWord 0b000#3 0b0#1 0b00000#5 0b00000#5 0b01#2)
  | .C_ADDI4SPN rd nzimm => clause (nzimm != 0b00000000#8 && zca) (addi4spnWord nzimm rd)
  | .C_LW ui rs1 rd => clause zca (wordAccess 0b010#3 ui rs1 rd)
  | .C_LD ui rs1 rd => clause (rv64 && zca) (doubleAccess 0b011#3 ui rs1 rd)
  | .C_SW ui rs1 rs2 => clause zca (wordAccess 0b110#3 ui rs1 rs2)
  | .C_SD ui rs1 rs2 => clause (rv64 && zca) (doubleAccess 0b111#3 ui rs1 rs2)
  | .C_ADDI nzi rsd =>
      clause (nzi != 0b000000#6 && rsd != zreg && zca) (immWord 0b000#3 nzi rsd 0b01#2)
  | .C_JAL imm => clause (decide (xlen = 32) && zca) (jumpWord 0b001#3 imm)
  | .C_ADDIW imm rsd => clause (rsd != zreg && rv64 && zca) (immWord 0b001#3 imm rsd 0b01#2)
  | .C_LI imm rd => clause (rd != zreg && zca) (immWord 0b010#3 imm rd 0b01#2)
  | .C_ADDI16SP nzi => clause (nzi != 0b000000#6 && zca) (addi16spWord nzi)
  | .C_LUI imm rd =>
      clause (rd != zreg && rd != sp && imm != 0b000000#6 && zca) (immWord 0b011#3 imm rd 0b01#2)
  | .C_SRLI nzui rsd => clause (shift nzui) (cimmWord 0b00#2 nzui rsd)
  | .C_SRAI nzui rsd => clause (shift nzui) (cimmWord 0b01#2 nzui rsd)
  | .C_ANDI imm rsd => clause zca (cimmWord 0b10#2 imm rsd)
  | .C_SUB rsd rs2 => clause zca (arithWord 0b0#1 rsd 0b00#2 rs2)
  | .C_XOR rsd rs2 => clause zca (arithWord 0b0#1 rsd 0b01#2 rs2)
  | .C_OR rsd rs2 => clause zca (arithWord 0b0#1 rsd 0b10#2 rs2)
  | .C_AND rsd rs2 => clause zca (arithWord 0b0#1 rsd 0b11#2 rs2)
  | .C_SUBW rsd rs2 => clause (rv64 && zca) (arithWord 0b1#1 rsd 0b00#2 rs2)
  | .C_ADDW rsd rs2 => clause (rv64 && zca) (arithWord 0b1#1 rsd 0b01#2 rs2)
  | .C_J imm => clause zca (jumpWord 0b101#3 imm)
  | .C_BEQZ imm rs => clause zca (branchWord 0b110#3 imm rs)
  | .C_BNEZ imm rs => clause zca (branchWord 0b111#3 imm rs)
  | .C_SLLI nzui rsd => clause (rsd != zreg && shift nzui) (immWord 0b000#3 nzui rsd 0b10#2)
  | .C_LWSP ui rd => clause (rd != zreg && zca) (wordFromStack 0b010#3 ui rd)
  | .C_LDSP ui rd => clause (rd != zreg && rv64 && zca) (doubleFromStack 0b011#3 ui rd)
  | .C_SWSP ui rs2 => clause zca (wordToStack 0b110#3 ui rs2)
  | .C_SDSP ui rs2 => clause (rv64 && zca) (doubleToStack 0b111#3 ui rs2)
  | .C_JR rs1 => clause (rs1 != zreg && zca) (regWord 0b100#3 0b0#1 rs1 0b00000#5 0b10#2)
  | .C_JALR rs1 => clause (rs1 != zreg && zca) (regWord 0b100#3 0b1#1 rs1 0b00000#5 0b10#2)
  | .C_MV rd rs2 =>
      clause (rd != zreg && rs2 != zreg && zca) (regWord 0b100#3 0b0#1 rd rs2 0b10#2)
  | .C_EBREAK => clause zca (regWord 0b100#3 0b1#1 0b00000#5 0b00000#5 0b10#2)
  | .C_ADD rsd rs2 =>
      clause (rsd != zreg && rs2 != zreg && zca) (regWord 0b100#3 0b1#1 rsd rs2 0b10#2)

/-- The clauses of `encdec_compressed` for hints. -/
def CHintInst.encode : CHintInst → Option (BitVec 16)
  | .C_NOP_HINT imm => clause (imm != 0b000000#6) (immWord 0b000#3 imm 0b00000#5 0b01#2)
  | .C_ADDI_HINT rsd => clause (rsd != zreg) (regWord 0b000#3 0b0#1 rsd 0b00000#5 0b01#2)
  | .C_LI_HINT imm => some (immWord 0b010#3 imm 0b00000#5 0b01#2)
  | .C_LUI_HINT imm => clause (imm != 0b000000#6) (immWord 0b011#3 imm 0b00000#5 0b01#2)
  | .C_MV_HINT rs2 => clause (rs2 != zreg) (regWord 0b100#3 0b0#1 0b00000#5 rs2 0b10#2)
  | .C_ADD_HINT rs2 => clause (rs2 != zreg) (regWord 0b100#3 0b1#1 0b00000#5 rs2 0b10#2)
  | .C_SLLI_HINT nzui rsd =>
      clause ((nzui == 0b000000#6 || rsd == zreg)
          && (decide (xlen = 64) || bits nzui 5 1 == 0b0#1))
        (immWord 0b000#3 nzui rsd 0b10#2)
  | .C_SRLI_HINT rsd => some (cimmWord 0b00#2 0b000000#6 rsd)
  | .C_SRAI_HINT rsd => some (cimmWord 0b01#2 0b000000#6 rsd)

/-- The clauses of `encdec_compressed` for floating-point loads and stores. -/
def ZcfInst.encode (s : State) (i : ZcfInst) : Option (BitVec 16) :=
  let zcf := extensionEnabled s .Zcf
  let zcd := extensionEnabled s .Zcd
  match i with
  | .C_FLWSP ui rd => clause zcf (wordFromStack 0b011#3 ui rd)
  | .C_FSWSP ui rs2 => clause zcf (wordToStack 0b111#3 ui rs2)
  | .C_FLW ui rs1 rd => clause zcf (wordAccess 0b011#3 ui rs1 rd)
  | .C_FSW ui rs1 rs2 => clause zcf (wordAccess 0b111#3 ui rs1 rs2)
  | .C_FLDSP ui rd => clause zcd (doubleFromStack 0b001#3 ui rd)
  | .C_FSDSP ui rs2 => clause zcd (doubleToStack 0b101#3 ui rs2)
  | .C_FLD ui rs1 rd => clause zcd (doubleAccess 0b001#3 ui rs1 rd)
  | .C_FSD ui rs1 rs2 => clause zcd (doubleAccess 0b101#3 ui rs1 rs2)

/-- The clauses of `encdec_compressed` for the additional instructions. -/
def ZcbInst.encode (s : State) (i : ZcbInst) : Option (BitVec 16) :=
  let zcb := extensionEnabled s .Zcb
  let zbb := extensionEnabled s .Zbb
  -- `uimm1 @ 0b0`
  let even (uimm : BitVec 2) := bits uimm 0 1 == 0b0#1
  let unary (funct3 : BitVec 3) (rsdc : Cregidx) :=
    cregWord 0b100#3 0b111#3 rsdc 0b11#2 funct3 0b01#2
  match i with
  | .C_LBU uimm rdc rs1c => clause zcb (byteAccess 0b000#3 uimm rs1c rdc)
  | .C_LHU uimm rdc rs1c => clause (even uimm && zcb) (halfAccess 0b001#3 0b0#1 uimm rs1c rdc)
  | .C_LH uimm rdc rs1c => clause (even uimm && zcb) (halfAccess 0b001#3 0b1#1 uimm rs1c rdc)
  | .C_SB uimm rs1c rs2c => clause zcb (byteAccess 0b010#3 uimm rs1c rs2c)
  | .C_SH uimm rs1c rs2c => clause (even uimm && zcb) (halfAccess 0b011#3 0b0#1 uimm rs1c rs2c)
  | .C_ZEXT_B rsdc => clause zcb (unary 0b000#3 rsdc)
  | .C_SEXT_B rsdc => clause (zcb && zbb) (unary 0b001#3 rsdc)
  | .C_ZEXT_H rsdc => clause (zcb && zbb) (unary 0b010#3 rsdc)
  | .C_SEXT_H rsdc => clause (zcb && zbb) (unary 0b011#3 rsdc)
  | .C_ZEXT_W rsdc =>
      clause (zcb && extensionEnabled s .Zba && decide (xlen = 64)) (unary 0b100#3 rsdc)
  | .C_NOT rsdc => clause zcb (unary 0b101#3 rsdc)
  | .C_MUL rsdc rs2c =>
      clause (zcb && (extensionEnabled s .M || extensionEnabled s .Zmmul))
        (cregWord 0b100#3 0b111#3 rsdc 0b10#2 rs2c 0b01#2)

/-- `encdec_compressed`, without the clause for illegal instructions. -/
def Ast.encodeCompressed (s : State) : Ast → Option (BitVec 16)
  | .ZCA i => i.encode s
  | .C_HINT i => i.encode
  | .ZCF i => i.encode s
  | .ZCB i => i.encode s
  | _ => none

end SailRiscv
