/-
# Encoding

`encdec`, read forwards, for the instructions of I, M, A, Zicsr, Zifencei, Zba, Zbb, Zbc, Zbkb,
Zkn, Zicbom, Zicboz, Svinval and for the reserved fences.  A clause whose left-hand side has a
condition encodes only the instructions that meet it.

Most words have one of two shapes: two source registers, or one and an immediate.
-/
import SailRiscv.Insts.Ast

namespace SailRiscv

open Bits Platform

/-! ## Shapes of words -/

/-- `funct7 @ rs2 @ rs1 @ funct3 @ rd @ opcode`. -/
def rtypeWord (funct7 : BitVec 7) (rs2 rs1 : Regidx) (funct3 : BitVec 3) (rd : Regidx)
    (opcode : BitVec 7) : BitVec 32 :=
  funct7 ++ rs2 ++ rs1 ++ funct3 ++ rd ++ opcode

/-- `imm @ rs1 @ funct3 @ rd @ opcode`. -/
def itypeWord (imm : BitVec 12) (rs1 : Regidx) (funct3 : BitVec 3) (rd : Regidx)
    (opcode : BitVec 7) : BitVec 32 :=
  imm ++ rs1 ++ funct3 ++ rd ++ opcode

variable [Platform]

/-! ## The base instructions -/

/-- `encdec_uop`. -/
def encodeUop : Uop → BitVec 7
  | .RISCV_LUI => 0b0110111#7
  | .RISCV_AUIPC => 0b0010111#7

/-- `encdec_bop`. -/
def encodeBop : Bop → BitVec 3
  | .RISCV_BEQ => 0b000#3
  | .RISCV_BNE => 0b001#3
  | .RISCV_BLT => 0b100#3
  | .RISCV_BGE => 0b101#3
  | .RISCV_BLTU => 0b110#3
  | .RISCV_BGEU => 0b111#3

/-- `encdec_iop`. -/
def encodeIop : Iop → BitVec 3
  | .RISCV_ADDI => 0b000#3
  | .RISCV_SLTI => 0b010#3
  | .RISCV_SLTIU => 0b011#3
  | .RISCV_ANDI => 0b111#3
  | .RISCV_ORI => 0b110#3
  | .RISCV_XORI => 0b100#3

/-- `funct6 @ shamt @ rs1 @ funct3 @ rd @ 0b0010011`. -/
def shiftWord (funct6 : BitVec 6) (shamt : BitVec 6) (rs1 : Regidx) (funct3 : BitVec 3)
    (rd : Regidx) (opcode : BitVec 7) : BitVec 32 :=
  itypeWord (funct6 ++ shamt) rs1 funct3 rd opcode

/-- The clauses of `encdec` for the base instructions. -/
def BaseInst.encode : BaseInst → Option (BitVec 32)
  | .UTYPE imm rd op => some (imm ++ rd ++ encodeUop op)
  | .RISCV_JAL imm rd =>
      -- `imm_19 @ imm_7_0 @ imm_8 @ imm_18_13 @ imm_12_9 @ 0b0`
      clause (bits imm 0 1 == 0b0#1)
        (bits imm 20 1 ++ bits imm 5 6 ++ bits imm 1 4 ++ bits imm 11 1 ++ bits imm 12 8 ++ rd
          ++ 0b1101111#7)
  | .RISCV_JALR imm rs1 rd => some (itypeWord imm rs1 0b000#3 rd 0b1100111#7)
  | .BTYPE imm rs2 rs1 op =>
      -- `imm7_6 @ imm5_0 @ imm7_5_0 @ imm5_4_1 @ 0b0`
      clause (bits imm 0 1 == 0b0#1)
        (rtypeWord (bits imm 12 1 ++ bits imm 5 6) rs2 rs1 (encodeBop op)
          (bits imm 1 4 ++ bits imm 11 1) 0b1100011#7)
  | .ITYPE imm rs1 rd op => some (itypeWord imm rs1 (encodeIop op) rd 0b0010011#7)
  | .SHIFTIOP shamt rs1 rd .RISCV_SLLI =>
      some (shiftWord 0b000000#6 shamt rs1 0b001#3 rd 0b0010011#7)
  | .SHIFTIOP shamt rs1 rd .RISCV_SRLI =>
      some (shiftWord 0b000000#6 shamt rs1 0b101#3 rd 0b0010011#7)
  | .SHIFTIOP shamt rs1 rd .RISCV_SRAI =>
      some (shiftWord 0b010000#6 shamt rs1 0b101#3 rd 0b0010011#7)
  | .RTYPE rs2 rs1 rd .RISCV_ADD => some (rtypeWord 0b0000000#7 rs2 rs1 0b000#3 rd 0b0110011#7)
  | .RTYPE rs2 rs1 rd .RISCV_SLT => some (rtypeWord 0b0000000#7 rs2 rs1 0b010#3 rd 0b0110011#7)
  | .RTYPE rs2 rs1 rd .RISCV_SLTU => some (rtypeWord 0b0000000#7 rs2 rs1 0b011#3 rd 0b0110011#7)
  | .RTYPE rs2 rs1 rd .RISCV_AND => some (rtypeWord 0b0000000#7 rs2 rs1 0b111#3 rd 0b0110011#7)
  | .RTYPE rs2 rs1 rd .RISCV_OR => some (rtypeWord 0b0000000#7 rs2 rs1 0b110#3 rd 0b0110011#7)
  | .RTYPE rs2 rs1 rd .RISCV_XOR => some (rtypeWord 0b0000000#7 rs2 rs1 0b100#3 rd 0b0110011#7)
  | .RTYPE rs2 rs1 rd .RISCV_SLL => some (rtypeWord 0b0000000#7 rs2 rs1 0b001#3 rd 0b0110011#7)
  | .RTYPE rs2 rs1 rd .RISCV_SRL => some (rtypeWord 0b0000000#7 rs2 rs1 0b101#3 rd 0b0110011#7)
  | .RTYPE rs2 rs1 rd .RISCV_SUB => some (rtypeWord 0b0100000#7 rs2 rs1 0b000#3 rd 0b0110011#7)
  | .RTYPE rs2 rs1 rd .RISCV_SRA => some (rtypeWord 0b0100000#7 rs2 rs1 0b101#3 rd 0b0110011#7)
  | .LOAD imm rs1 rd isUnsigned size aq rl =>
      clause (!aq && !rl && (decide (sizeBytes size < xlenBytes)
          || (!isUnsigned && decide (sizeBytes size ≤ xlenBytes))))
        (itypeWord imm rs1 (boolToBits isUnsigned ++ sizeEnc size) rd 0b0000011#7)
  | .STORE imm rs2 rs1 size aq rl =>
      clause (!aq && !rl && decide (sizeBytes size ≤ xlenBytes))
        (rtypeWord (bits imm 5 7) rs2 rs1 (0b0#1 ++ sizeEnc size) (bits imm 0 5) 0b0100011#7)
  | .ADDIW imm rs1 rd =>
      clause (decide (xlen = 64)) (itypeWord imm rs1 0b000#3 rd 0b0011011#7)
  | .RTYPEW rs2 rs1 rd .RISCV_ADDW =>
      clause (decide (xlen = 64)) (rtypeWord 0b0000000#7 rs2 rs1 0b000#3 rd 0b0111011#7)
  | .RTYPEW rs2 rs1 rd .RISCV_SUBW =>
      clause (decide (xlen = 64)) (rtypeWord 0b0100000#7 rs2 rs1 0b000#3 rd 0b0111011#7)
  | .RTYPEW rs2 rs1 rd .RISCV_SLLW =>
      clause (decide (xlen = 64)) (rtypeWord 0b0000000#7 rs2 rs1 0b001#3 rd 0b0111011#7)
  | .RTYPEW rs2 rs1 rd .RISCV_SRLW =>
      clause (decide (xlen = 64)) (rtypeWord 0b0000000#7 rs2 rs1 0b101#3 rd 0b0111011#7)
  | .RTYPEW rs2 rs1 rd .RISCV_SRAW =>
      clause (decide (xlen = 64)) (rtypeWord 0b0100000#7 rs2 rs1 0b101#3 rd 0b0111011#7)
  | .SHIFTIWOP shamt rs1 rd .RISCV_SLLIW =>
      clause (decide (xlen = 64)) (rtypeWord 0b0000000#7 shamt rs1 0b001#3 rd 0b0011011#7)
  | .SHIFTIWOP shamt rs1 rd .RISCV_SRLIW =>
      clause (decide (xlen = 64)) (rtypeWord 0b0000000#7 shamt rs1 0b101#3 rd 0b0011011#7)
  | .SHIFTIWOP shamt rs1 rd .RISCV_SRAIW =>
      clause (decide (xlen = 64)) (rtypeWord 0b0100000#7 shamt rs1 0b101#3 rd 0b0011011#7)
  | .FENCE pred succ =>
      some (itypeWord (0b0000#4 ++ pred ++ succ) 0b00000#5 0b000#3 0b00000#5 0b0001111#7)
  | .FENCE_TSO pred succ =>
      some (itypeWord (0b1000#4 ++ pred ++ succ) 0b00000#5 0b000#3 0b00000#5 0b0001111#7)
  | .ECALL => some (itypeWord 0b000000000000#12 0b00000#5 0b000#3 0b00000#5 0b1110011#7)
  | .MRET => some (rtypeWord 0b0011000#7 0b00010#5 0b00000#5 0b000#3 0b00000#5 0b1110011#7)
  | .SRET => some (rtypeWord 0b0001000#7 0b00010#5 0b00000#5 0b000#3 0b00000#5 0b1110011#7)
  | .EBREAK => some (itypeWord 0b000000000001#12 0b00000#5 0b000#3 0b00000#5 0b1110011#7)
  | .WFI => some (itypeWord 0b000100000101#12 0b00000#5 0b000#3 0b00000#5 0b1110011#7)
  | .SFENCE_VMA rs1 rs2 => some (rtypeWord 0b0001001#7 rs2 rs1 0b000#3 0b00000#5 0b1110011#7)

/-- What the right-hand side of a clause requires and the left-hand side does not: shift amounts
below `xlen`. -/
def BaseInst.Decodable : BaseInst → Prop
  | .SHIFTIOP shamt _ _ _ => xlen = 64 ∨ bits shamt 5 1 = 0b0#1
  | _ => True

/-! ## Fences, CSR instructions and cache blocks -/

/-- The clause of `encdec` for instruction fences. -/
def ZifenceiInst.encode (s : State) : ZifenceiInst → Option (BitVec 32)
  | .FENCEI =>
      clause (extensionEnabled s .Zifencei)
        (itypeWord 0b000000000000#12 0b00000#5 0b001#3 0b00000#5 0b0001111#7)

/-- The clauses of `encdec` for the reserved fences. -/
def FenceHintInst.encode : FenceHintInst → Option (BitVec 32)
  | .FENCE_RESERVED fm pred succ rs rd =>
      clause ((fm != 0b0000#4 && fm != 0b1000#4) || rs != 0b00000#5 || rd != 0b00000#5)
        (itypeWord (fm ++ pred ++ succ) rs 0b000#3 rd 0b0001111#7)
  | .FENCEI_RESERVED imm rs rd =>
      clause (imm != 0b000000000000#12 || rs != 0b00000#5 || rd != 0b00000#5)
        (itypeWord imm rs 0b001#3 rd 0b0001111#7)

/-- The clauses of `encdec` for fine-grained invalidation. -/
def SvinvalInst.encode (s : State) : SvinvalInst → Option (BitVec 32)
  | .SINVAL_VMA rs1 rs2 =>
      clause (extensionEnabled s .Svinval)
        (rtypeWord 0b0001011#7 rs2 rs1 0b000#3 0b00000#5 0b1110011#7)
  | .SFENCE_W_INVAL =>
      clause (extensionEnabled s .Svinval)
        (rtypeWord 0b0001100#7 0b00000#5 0b00000#5 0b000#3 0b00000#5 0b1110011#7)
  | .SFENCE_INVAL_IR =>
      clause (extensionEnabled s .Svinval)
        (rtypeWord 0b0001100#7 0b00001#5 0b00000#5 0b000#3 0b00000#5 0b1110011#7)

/-- `encdec_csrop`. -/
def encodeCsrop : Csrop → BitVec 2
  | .CSRRW => 0b01#2
  | .CSRRS => 0b10#2
  | .CSRRC => 0b11#2

/-- The clause of `encdec` for CSR instructions. -/
def ZicsrInst.encode (i : ZicsrInst) : Option (BitVec 32) :=
  some (itypeWord i.csr i.rs1 (boolToBits i.isImm ++ encodeCsrop i.op) i.rd 0b1110011#7)

/-- `encdec_cbop`. -/
def encodeCbop : CbopZicbom → BitVec 12
  | .CBO_CLEAN => 0b000000000001#12
  | .CBO_FLUSH => 0b000000000010#12
  | .CBO_INVAL => 0b000000000000#12

/-- The clauses of `encdec` for cache blocks. -/
def CacheBlockInst.encode (s : State) : CacheBlockInst → Option (BitVec 32)
  | .RISCV_ZICBOM cbop rs1 =>
      clause (extensionEnabled s .Zicbom)
        (itypeWord (encodeCbop cbop) rs1 0b010#3 0b00000#5 0b0001111#7)
  | .RISCV_ZICBOZ rs1 =>
      clause (extensionEnabled s .Zicboz)
        (itypeWord 0b000000000100#12 rs1 0b010#3 0b00000#5 0b0001111#7)

/-! ## Atomic instructions -/

/-- `encdec_amoop`. -/
def encodeAmoop : Amoop → BitVec 5
  | .AMOSWAP => 0b00001#5
  | .AMOADD => 0b00000#5
  | .AMOXOR => 0b00100#5
  | .AMOAND => 0b01100#5
  | .AMOOR => 0b01000#5
  | .AMOMIN => 0b10000#5
  | .AMOMAX => 0b10100#5
  | .AMOMINU => 0b11000#5
  | .AMOMAXU => 0b11100#5

/-- `funct5 @ bool_bits(aq) @ bool_bits(rl) @ rs2 @ rs1 @ 0b0 @ size_enc(size) @ rd @ 0b0101111`. -/
def atomicWord (funct5 : BitVec 5) (aq rl : Bool) (rs2 rs1 : Regidx) (size : WordWidth)
    (rd : Regidx) : BitVec 32 :=
  rtypeWord (funct5 ++ boolToBits aq ++ boolToBits rl) rs2 rs1 (0b0#1 ++ sizeEnc size) rd
    0b0101111#7

/-- The clauses of `encdec` for the atomic instructions. -/
def AtomicInst.encode (s : State) : AtomicInst → Option (BitVec 32)
  | .LOADRES aq rl rs1 size rd =>
      clause (extensionEnabled s .Zalrsc && lrscWidthValid size)
        (atomicWord 0b00010#5 aq rl 0b00000#5 rs1 size rd)
  | .STORECON aq rl rs2 rs1 size rd =>
      clause (extensionEnabled s .Zalrsc && lrscWidthValid size)
        (atomicWord 0b00011#5 aq rl rs2 rs1 size rd)
  | .AMO op aq rl rs2 rs1 size rd =>
      clause (extensionEnabled s .Zaamo && amoWidthValid s size)
        (atomicWord (encodeAmoop op) aq rl rs2 rs1 size rd)

/-! ## Multiplication and division -/

/-- `encdec_mul_op`. -/
def encodeMulOp (op : MulOp) : Option (BitVec 3) :=
  match op.high, op.signedRs1, op.signedRs2 with
  | false, true, true => some 0b000#3
  | true, true, true => some 0b001#3
  | true, true, false => some 0b010#3
  | true, false, false => some 0b011#3
  | _, _, _ => none

/-- `bool_not_bits`. -/
def boolNotBits (b : Bool) : BitVec 1 := if b then 0b0#1 else 0b1#1

/-- The clauses of `encdec` for multiplication and division. -/
def MulInst.encode (s : State) : MulInst → Option (BitVec 32)
  | .MUL rs2 rs1 rd op =>
      if extensionEnabled s .M || extensionEnabled s .Zmmul then
        (encodeMulOp op).map (fun f3 => rtypeWord 0b0000001#7 rs2 rs1 f3 rd 0b0110011#7)
      else none
  | .DIV rs2 rs1 rd sgn =>
      clause (extensionEnabled s .M)
        (rtypeWord 0b0000001#7 rs2 rs1 (0b10#2 ++ boolNotBits sgn) rd 0b0110011#7)
  | .REM rs2 rs1 rd sgn =>
      clause (extensionEnabled s .M)
        (rtypeWord 0b0000001#7 rs2 rs1 (0b11#2 ++ boolNotBits sgn) rd 0b0110011#7)
  | .MULW rs2 rs1 rd =>
      clause (decide (xlen = 64) && (extensionEnabled s .M || extensionEnabled s .Zmmul))
        (rtypeWord 0b0000001#7 rs2 rs1 0b000#3 rd 0b0111011#7)
  | .DIVW rs2 rs1 rd sgn =>
      clause (decide (xlen = 64) && extensionEnabled s .M)
        (rtypeWord 0b0000001#7 rs2 rs1 (0b10#2 ++ boolNotBits sgn) rd 0b0111011#7)
  | .REMW rs2 rs1 rd sgn =>
      clause (decide (xlen = 64) && extensionEnabled s .M)
        (rtypeWord 0b0000001#7 rs2 rs1 (0b11#2 ++ boolNotBits sgn) rd 0b0111011#7)

/-! ## Bit manipulation -/

/-- The clauses of `encdec` for address generation. -/
def ZbaInst.encode (s : State) (i : ZbaInst) : Option (BitVec 32) :=
  let zba := extensionEnabled s .Zba
  let zba64 := extensionEnabled s .Zba && decide (xlen = 64)
  match i with
  | .RISCV_SLLIUW shamt rs1 rd =>
      clause zba64 (shiftWord 0b000010#6 shamt rs1 0b001#3 rd 0b0011011#7)
  | .ZBA_RTYPEUW rs2 rs1 rd .RISCV_ADDUW =>
      clause zba64 (rtypeWord 0b0000100#7 rs2 rs1 0b000#3 rd 0b0111011#7)
  | .ZBA_RTYPEUW rs2 rs1 rd .RISCV_SH1ADDUW =>
      clause zba64 (rtypeWord 0b0010000#7 rs2 rs1 0b010#3 rd 0b0111011#7)
  | .ZBA_RTYPEUW rs2 rs1 rd .RISCV_SH2ADDUW =>
      clause zba64 (rtypeWord 0b0010000#7 rs2 rs1 0b100#3 rd 0b0111011#7)
  | .ZBA_RTYPEUW rs2 rs1 rd .RISCV_SH3ADDUW =>
      clause zba64 (rtypeWord 0b0010000#7 rs2 rs1 0b110#3 rd 0b0111011#7)
  | .ZBA_RTYPE rs2 rs1 rd .RISCV_SH1ADD =>
      clause zba (rtypeWord 0b0010000#7 rs2 rs1 0b010#3 rd 0b0110011#7)
  | .ZBA_RTYPE rs2 rs1 rd .RISCV_SH2ADD =>
      clause zba (rtypeWord 0b0010000#7 rs2 rs1 0b100#3 rd 0b0110011#7)
  | .ZBA_RTYPE rs2 rs1 rd .RISCV_SH3ADD =>
      clause zba (rtypeWord 0b0010000#7 rs2 rs1 0b110#3 rd 0b0110011#7)

/-- The clauses of `encdec` for basic bit manipulation. -/
def ZbbInst.encode (s : State) (i : ZbbInst) : Option (BitVec 32) :=
  let zbb := extensionEnabled s .Zbb
  let zbbOrZbkb := extensionEnabled s .Zbb || extensionEnabled s .Zbkb
  let rv64 := decide (xlen = 64)
  match i with
  | .RISCV_RORIW shamt rs1 rd =>
      clause (zbbOrZbkb && rv64) (rtypeWord 0b0110000#7 shamt rs1 0b101#3 rd 0b0011011#7)
  | .RISCV_RORI shamt rs1 rd =>
      clause (zbbOrZbkb && (rv64 || bits shamt 5 1 == 0b0#1))
        (shiftWord 0b011000#6 shamt rs1 0b101#3 rd 0b0010011#7)
  | .ZBB_RTYPEW rs2 rs1 rd .RISCV_ROLW =>
      clause (zbbOrZbkb && rv64) (rtypeWord 0b0110000#7 rs2 rs1 0b001#3 rd 0b0111011#7)
  | .ZBB_RTYPEW rs2 rs1 rd .RISCV_RORW =>
      clause (zbbOrZbkb && rv64) (rtypeWord 0b0110000#7 rs2 rs1 0b101#3 rd 0b0111011#7)
  | .ZBB_RTYPE rs2 rs1 rd .RISCV_ANDN =>
      clause zbbOrZbkb (rtypeWord 0b0100000#7 rs2 rs1 0b111#3 rd 0b0110011#7)
  | .ZBB_RTYPE rs2 rs1 rd .RISCV_ORN =>
      clause zbbOrZbkb (rtypeWord 0b0100000#7 rs2 rs1 0b110#3 rd 0b0110011#7)
  | .ZBB_RTYPE rs2 rs1 rd .RISCV_XNOR =>
      clause zbbOrZbkb (rtypeWord 0b0100000#7 rs2 rs1 0b100#3 rd 0b0110011#7)
  | .ZBB_RTYPE rs2 rs1 rd .RISCV_MAX =>
      clause zbb (rtypeWord 0b0000101#7 rs2 rs1 0b110#3 rd 0b0110011#7)
  | .ZBB_RTYPE rs2 rs1 rd .RISCV_MAXU =>
      clause zbb (rtypeWord 0b0000101#7 rs2 rs1 0b111#3 rd 0b0110011#7)
  | .ZBB_RTYPE rs2 rs1 rd .RISCV_MIN =>
      clause zbb (rtypeWord 0b0000101#7 rs2 rs1 0b100#3 rd 0b0110011#7)
  | .ZBB_RTYPE rs2 rs1 rd .RISCV_MINU =>
      clause zbb (rtypeWord 0b0000101#7 rs2 rs1 0b101#3 rd 0b0110011#7)
  | .ZBB_RTYPE rs2 rs1 rd .RISCV_ROL =>
      clause zbbOrZbkb (rtypeWord 0b0110000#7 rs2 rs1 0b001#3 rd 0b0110011#7)
  | .ZBB_RTYPE rs2 rs1 rd .RISCV_ROR =>
      clause zbbOrZbkb (rtypeWord 0b0110000#7 rs2 rs1 0b101#3 rd 0b0110011#7)
  | .ZBB_EXTOP rs1 rd .RISCV_SEXTB =>
      clause zbb (rtypeWord 0b0110000#7 0b00100#5 rs1 0b001#3 rd 0b0010011#7)
  | .ZBB_EXTOP rs1 rd .RISCV_SEXTH =>
      clause zbb (rtypeWord 0b0110000#7 0b00101#5 rs1 0b001#3 rd 0b0010011#7)
  | .ZBB_EXTOP rs1 rd .RISCV_ZEXTH =>
      firstClause [
        clause (zbb && decide (xlen = 32))
          (rtypeWord 0b0000100#7 0b00000#5 rs1 0b100#3 rd 0b0110011#7),
        clause (zbb && rv64) (rtypeWord 0b0000100#7 0b00000#5 rs1 0b100#3 rd 0b0111011#7)]
  | .RISCV_REV8 rs1 rd =>
      firstClause [
        clause (zbbOrZbkb && decide (xlen = 32))
          (itypeWord 0b011010011000#12 rs1 0b101#3 rd 0b0010011#7),
        clause (zbbOrZbkb && rv64) (itypeWord 0b011010111000#12 rs1 0b101#3 rd 0b0010011#7)]
  | .RISCV_ORCB rs1 rd =>
      clause zbb (itypeWord 0b001010000111#12 rs1 0b101#3 rd 0b0010011#7)
  | .RISCV_CPOP rs1 rd =>
      clause zbb (itypeWord 0b011000000010#12 rs1 0b001#3 rd 0b0010011#7)
  | .RISCV_CPOPW rs1 rd =>
      clause (zbb && rv64) (itypeWord 0b011000000010#12 rs1 0b001#3 rd 0b0011011#7)
  | .RISCV_CLZ rs1 rd =>
      clause zbb (itypeWord 0b011000000000#12 rs1 0b001#3 rd 0b0010011#7)
  | .RISCV_CLZW rs1 rd =>
      clause (zbb && rv64) (itypeWord 0b011000000000#12 rs1 0b001#3 rd 0b0011011#7)
  | .RISCV_CTZ rs1 rd =>
      clause zbb (itypeWord 0b011000000001#12 rs1 0b001#3 rd 0b0010011#7)
  | .RISCV_CTZW rs1 rd =>
      clause (zbb && rv64) (itypeWord 0b011000000001#12 rs1 0b001#3 rd 0b0011011#7)

/-- The clauses of `encdec` for carry-less multiplication. -/
def ZbcInst.encode (s : State) (i : ZbcInst) : Option (BitVec 32) :=
  let zbcOrZbkc := extensionEnabled s .Zbc || extensionEnabled s .Zbkc
  match i with
  | .RISCV_CLMUL rs2 rs1 rd =>
      clause zbcOrZbkc (rtypeWord 0b0000101#7 rs2 rs1 0b001#3 rd 0b0110011#7)
  | .RISCV_CLMULH rs2 rs1 rd =>
      clause zbcOrZbkc (rtypeWord 0b0000101#7 rs2 rs1 0b011#3 rd 0b0110011#7)
  | .RISCV_CLMULR rs2 rs1 rd =>
      clause (extensionEnabled s .Zbc) (rtypeWord 0b0000101#7 rs2 rs1 0b010#3 rd 0b0110011#7)

/-! ## Cryptography -/

/-- The clauses of `encdec` for bit manipulation for cryptography. -/
def ZbkbInst.encode (s : State) (i : ZbkbInst) : Option (BitVec 32) :=
  let zbkb := extensionEnabled s .Zbkb
  match i with
  | .ZBKB_RTYPE rs2 rs1 rd .RISCV_PACK =>
      clause zbkb (rtypeWord 0b0000100#7 rs2 rs1 0b100#3 rd 0b0110011#7)
  | .ZBKB_RTYPE rs2 rs1 rd .RISCV_PACKH =>
      clause zbkb (rtypeWord 0b0000100#7 rs2 rs1 0b111#3 rd 0b0110011#7)
  | .ZBKB_PACKW rs2 rs1 rd =>
      clause (zbkb && decide (xlen = 64)) (rtypeWord 0b0000100#7 rs2 rs1 0b100#3 rd 0b0111011#7)
  | .RISCV_ZIP rs1 rd =>
      clause (zbkb && decide (xlen = 32)) (itypeWord 0b000010001111#12 rs1 0b001#3 rd 0b0010011#7)
  | .RISCV_UNZIP rs1 rd =>
      clause (zbkb && decide (xlen = 32)) (itypeWord 0b000010001111#12 rs1 0b101#3 rd 0b0010011#7)
  | .RISCV_BREV8 rs1 rd =>
      clause zbkb (itypeWord 0b011010000111#12 rs1 0b101#3 rd 0b0010011#7)

/-- The clauses of `encdec` for the NIST algorithm suite. -/
def ZknInst.encode (s : State) (i : ZknInst) : Option (BitVec 32) :=
  let zknh := extensionEnabled s .Zknh
  let zkne := extensionEnabled s .Zkne
  let zknd := extensionEnabled s .Zknd
  let rv32 := decide (xlen = 32)
  let rv64 := decide (xlen = 64)
  let unary (f2 : BitVec 2) (f5 rs2 rs1 rd : BitVec 5) : BitVec 32 :=
    rtypeWord (f2 ++ f5) rs2 rs1 0b001#3 rd 0b0010011#7
  let binary (f2 : BitVec 2) (f5 rs2 rs1 rd : BitVec 5) : BitVec 32 :=
    rtypeWord (f2 ++ f5) rs2 rs1 0b000#3 rd 0b0110011#7
  match i with
  | .SHA256SUM0 rs1 rd => clause zknh (unary 0b00#2 0b01000#5 0b00000#5 rs1 rd)
  | .SHA256SUM1 rs1 rd => clause zknh (unary 0b00#2 0b01000#5 0b00001#5 rs1 rd)
  | .SHA256SIG0 rs1 rd => clause zknh (unary 0b00#2 0b01000#5 0b00010#5 rs1 rd)
  | .SHA256SIG1 rs1 rd => clause zknh (unary 0b00#2 0b01000#5 0b00011#5 rs1 rd)
  | .AES32ESMI bs rs2 rs1 rd => clause (zkne && rv32) (binary bs 0b10011#5 rs2 rs1 rd)
  | .AES32ESI bs rs2 rs1 rd => clause (zkne && rv32) (binary bs 0b10001#5 rs2 rs1 rd)
  | .AES32DSMI bs rs2 rs1 rd => clause (zknd && rv32) (binary bs 0b10111#5 rs2 rs1 rd)
  | .AES32DSI bs rs2 rs1 rd => clause (zknd && rv32) (binary bs 0b10101#5 rs2 rs1 rd)
  | .SHA512SUM0R rs2 rs1 rd => clause (zknh && rv32) (binary 0b01#2 0b01000#5 rs2 rs1 rd)
  | .SHA512SUM1R rs2 rs1 rd => clause (zknh && rv32) (binary 0b01#2 0b01001#5 rs2 rs1 rd)
  | .SHA512SIG0L rs2 rs1 rd => clause (zknh && rv32) (binary 0b01#2 0b01010#5 rs2 rs1 rd)
  | .SHA512SIG0H rs2 rs1 rd => clause (zknh && rv32) (binary 0b01#2 0b01110#5 rs2 rs1 rd)
  | .SHA512SIG1L rs2 rs1 rd => clause (zknh && rv32) (binary 0b01#2 0b01011#5 rs2 rs1 rd)
  | .SHA512SIG1H rs2 rs1 rd => clause (zknh && rv32) (binary 0b01#2 0b01111#5 rs2 rs1 rd)
  | .AES64KS1I rnum rs1 rd =>
      clause ((zkne || zknd) && rv64 && decide (rnum < 0xB#4))
        (unary 0b00#2 0b11000#5 (0b1#1 ++ rnum) rs1 rd)
  | .AES64IM rs1 rd => clause (zknd && rv64) (unary 0b00#2 0b11000#5 0b00000#5 rs1 rd)
  | .AES64KS2 rs2 rs1 rd => clause ((zkne || zknd) && rv64) (binary 0b01#2 0b11111#5 rs2 rs1 rd)
  | .AES64ESM rs2 rs1 rd => clause (zkne && rv64) (binary 0b00#2 0b11011#5 rs2 rs1 rd)
  | .AES64ES rs2 rs1 rd => clause (zkne && rv64) (binary 0b00#2 0b11001#5 rs2 rs1 rd)
  | .AES64DSM rs2 rs1 rd => clause (zknd && rv64) (binary 0b00#2 0b11111#5 rs2 rs1 rd)
  | .AES64DS rs2 rs1 rd => clause (zknd && rv64) (binary 0b00#2 0b11101#5 rs2 rs1 rd)
  | .SHA512SUM0 rs1 rd => clause (zknh && rv64) (unary 0b00#2 0b01000#5 0b00100#5 rs1 rd)
  | .SHA512SUM1 rs1 rd => clause (zknh && rv64) (unary 0b00#2 0b01000#5 0b00101#5 rs1 rd)
  | .SHA512SIG0 rs1 rd => clause (zknh && rv64) (unary 0b00#2 0b01000#5 0b00110#5 rs1 rd)
  | .SHA512SIG1 rs1 rd => clause (zknh && rv64) (unary 0b00#2 0b01000#5 0b00111#5 rs1 rd)

/-! ## The instruction set -/

/-- The clauses of `encdec` of the instructions listed above; the other extensions are not
encoded. -/
def Ast.encode (s : State) : Ast → Option (BitVec 32)
  | .BASE i => i.encode
  | .ZIFENCEI i => i.encode s
  | .ATOMIC i => i.encode s
  | .MUL i => i.encode s
  | .CSR i => i.encode
  | .FENCE_HINT i => i.encode
  | .SVINVAL i => i.encode s
  | .ZBA i => i.encode s
  | .ZBB i => i.encode s
  | .ZBC i => i.encode s
  | .ZKN i => i.encode s
  | .ZBKB i => i.encode s
  | .CACHE_BLOCK i => i.encode s
  | _ => none

/-- The instructions whose clauses `Ast.encode` has. -/
def Ast.Encodable : Ast → Prop
  | .BASE _ | .ZIFENCEI _ | .ATOMIC _ | .MUL _ | .CSR _ | .FENCE_HINT _ | .SVINVAL _ | .ZBA _
  | .ZBB _ | .ZBC _ | .ZKN _ | .ZBKB _ | .CACHE_BLOCK _ => True
  | _ => False

end SailRiscv
