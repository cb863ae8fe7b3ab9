/-
# The text of compressed instructions

The mapping `assembly` of the compressed instructions, and when the operands that it prints for a
load, a store, a branch or an instruction with an immediate are those that the instruction uses.
The numbers that `hex_bits` and `hex_bits_signed` print stand for themselves.
-/
import SailRiscv.Expansion

namespace SailRiscv

open Bits Platform

/-! ## Names of registers -/

/-- `reg_name`. -/
def regName (r : Regidx) : String :=
  ["zero", "ra", "sp", "gp", "tp", "t0", "t1", "t2", "fp", "s1", "a0", "a1", "a2", "a3", "a4", "a5",
    "a6", "a7", "s2", "s3", "s4", "s5", "s6", "s7", "s8", "s9", "s10", "s11", "t3", "t4", "t5",
    "t6"].getD r.toNat ""

/-- `creg_name`. -/
def cregName (r : Cregidx) : String :=
  ["s0", "s1", "a0", "a1", "a2", "a3", "a4", "a5"].getD r.toNat ""

/-- `freg_name`. -/
def fregName (r : Regidx) : String :=
  ["ft0", "ft1", "ft2", "ft3", "ft4", "ft5", "ft6", "ft7", "fs0", "fs1", "fa0", "fa1", "fa2",
    "fa3", "fa4", "fa5", "fa6", "fa7", "fs2", "fs3", "fs4", "fs5", "fs6", "fs7", "fs8", "fs9",
    "fs10", "fs11", "ft8", "ft9", "ft10", "ft11"].getD r.toNat ""

/-- A register operand: an integer register or a floating-point register. -/
inductive Operand where
  | x (r : Regidx)
  | f (r : Regidx)
  deriving DecidableEq, Repr

/-- The text is a name of the register; `x8` has two. -/
def Operand.Named : Operand → String → Prop
  | .x r, name => name = regName r ∨ ∃ c, creg2regIdx c = r ∧ name = cregName c
  | .f r, name => name = fregName r

theorem named_regName (r : Regidx) : Operand.Named (.x r) (regName r) := Or.inl rfl

theorem named_cregName (c : Cregidx) : Operand.Named (.x (creg2regIdx c)) (cregName c) :=
  Or.inr ⟨c, rfl, rfl⟩

/-- Different registers have different names. -/
theorem named_cregName_iff {c d : Cregidx} :
    Operand.Named (.x (creg2regIdx c)) (cregName d) ↔ c = d := by
  have hreg : ∀ c d : Cregidx, cregName d = regName (creg2regIdx c) → c = d := by decide +kernel
  have hidx : ∀ c d : Cregidx, creg2regIdx c = creg2regIdx d → c = d := by decide
  have hcreg : ∀ c d : Cregidx, cregName c = cregName d → c = d := by decide +kernel
  constructor
  · rintro (h | ⟨b, hb, h⟩)
    · exact hreg c d h
    · rw [hcreg d b h]
      exact (hidx b c hb).symm
  · rintro rfl
    exact named_cregName c

/-- No floating-point register has the name of an integer register. -/
theorem not_named_f (r : Regidx) :
    (∀ r', ¬ Operand.Named (.f r) (regName r')) ∧ ∀ c, ¬ Operand.Named (.f r) (cregName c) := by
  have hreg : ∀ r r' : Regidx, regName r' ≠ fregName r := by decide +kernel
  have hcreg : ∀ (r : Regidx) (c : Cregidx), cregName c ≠ fregName r := by decide +kernel
  exact ⟨hreg r, hcreg r⟩

/-! ## Texts -/

/-- An operand in the text of an instruction: the name of a register or a number. -/
inductive AsmOperand where
  | name (n : String)
  | number (v : ℤ)

/-- The text of an instruction. -/
structure Asm where
  mnemonic : String
  operands : List AsmOperand

/-- `reg_name(r)`. -/
def reg (r : Regidx) : AsmOperand := .name (regName r)

/-- `creg_name(r)`. -/
def creg (r : Cregidx) : AsmOperand := .name (cregName r)

/-- `hex_bits_n(v)`. -/
def hexBits {n : ℕ} (v : BitVec n) : AsmOperand := .number v.toNat

/-- `hex_bits_signed_n(v)`. -/
def hexBitsSigned {n : ℕ} (v : BitVec n) : AsmOperand := .number v.toInt

/-- The names in a text. -/
def names (ops : List AsmOperand) : List String :=
  ops.filterMap (fun | .name n => some n | .number _ => none)

/-- The numbers in a text. -/
def numbers (ops : List AsmOperand) : List ℤ :=
  ops.filterMap (fun | .name _ => none | .number v => some v)

variable [Platform]

/-- `assembly`. -/
def ZcaInst.assembly : ZcaInst → Option Asm
  | .C_NOP => some ⟨"c.nop", []⟩
  | .C_ADDI4SPN rdc nzimm =>
      clause (nzimm != 0#8) ⟨"c.addi4spn", [creg rdc, hexBits (nzimm ++ 0b00#2)]⟩
  | .C_LW uimm rsc rdc => some ⟨"c.lw", [creg rdc, creg rsc, hexBits (uimm ++ 0b00#2)]⟩
  | .C_LD uimm rsc rdc =>
      clause (decide (xlen = 64)) ⟨"c.ld", [creg rdc, creg rsc, hexBits (uimm ++ 0b000#3)]⟩
  | .C_SW uimm rsc1 rsc2 => some ⟨"c.sw", [creg rsc1, creg rsc2, hexBits (uimm ++ 0b00#2)]⟩
  | .C_SD uimm rsc1 rsc2 =>
      clause (decide (xlen = 64)) ⟨"c.sd", [creg rsc1, creg rsc2, hexBits (uimm ++ 0b000#3)]⟩
  | .C_ADDI nzi rsd =>
      clause (nzi != 0#6 && rsd != zreg) ⟨"c.addi", [reg rsd, hexBitsSigned nzi]⟩
  | .C_JAL imm => clause (decide (xlen = 32)) ⟨"c.jal", [hexBitsSigned (imm ++ 0b0#1)]⟩
  | .C_ADDIW imm rsd => clause (decide (xlen = 64)) ⟨"c.addiw", [reg rsd, hexBitsSigned imm]⟩
  | .C_LI imm rd => clause (rd != zreg) ⟨"c.li", [reg rd, hexBitsSigned imm]⟩
  | .C_ADDI16SP imm => clause (imm != 0#6) ⟨"c.addi16sp", [hexBitsSigned imm]⟩
  | .C_LUI imm rd =>
      clause (rd != zreg && rd != sp && imm != 0#6) ⟨"c.lui", [reg rd, hexBitsSigned imm]⟩
  | .C_SRLI shamt rsd => clause (shamt != 0#6) ⟨"c.srli", [creg rsd, hexBits shamt]⟩
  | .C_SRAI shamt rsd => clause (shamt != 0#6) ⟨"c.srai", [creg rsd, hexBits shamt]⟩
  | .C_ANDI imm rsd => some ⟨"c.andi", [creg rsd, hexBitsSigned imm]⟩
  | .C_SUB rsd rs2 => some ⟨"c.sub", [creg rsd, creg rs2]⟩
  | .C_XOR rsd rs2 => some ⟨"c.xor", [creg rsd, creg rs2]⟩
  | .C_OR rsd rs2 => some ⟨"c.or", [creg rsd, creg rs2]⟩
  | .C_AND rsd rs2 => some ⟨"c.and", [creg rsd, creg rs2]⟩
  | .C_SUBW rsd rs2 => clause (decide (xlen = 64)) ⟨"c.subw", [creg rsd, creg rs2]⟩
  | .C_ADDW rsd rs2 => clause (decide (xlen = 64)) ⟨"c.addw", [creg rsd, creg rs2]⟩
  | .C_J imm => some ⟨"c.j", [hexBitsSigned (imm ++ 0b0#1)]⟩
  | .C_BEQZ imm rs => some ⟨"c.beqz", [creg rs, hexBitsSigned imm]⟩
  | .C_BNEZ imm rs => some ⟨"c.bnez", [creg rs, hexBitsSigned imm]⟩
  | .C_SLLI shamt rsd =>
      clause (shamt != 0#6 && rsd != zreg) ⟨"c.slli", [reg rsd, hexBits shamt]⟩
  | .C_LWSP uimm rd => clause (rd != zreg) ⟨"c.lwsp", [reg rd, hexBits uimm]⟩
  | .C_LDSP uimm rd =>
      clause (rd != zreg && decide (xlen = 64)) ⟨"c.ldsp", [reg rd, hexBits uimm]⟩
  | .C_SWSP uimm rs2 => some ⟨"c.swsp", [reg rs2, hexBits uimm]⟩
  | .C_SDSP uimm rs2 => clause (decide (xlen = 64)) ⟨"c.sdsp", [reg rs2, hexBits uimm]⟩
  | .C_JR rs1 => clause (rs1 != zreg) ⟨"c.jr", [reg rs1]⟩
  | .C_JALR rs1 => clause (rs1 != zreg) ⟨"c.jalr", [reg rs1]⟩
  | .C_MV rd rs2 => clause (rd != zreg && rs2 != zreg) ⟨"c.mv", [reg rd, reg rs2]⟩
  | .C_EBREAK => some ⟨"c.ebreak", []⟩
  | .C_ADD rsd rs2 => clause (rsd != zreg && rs2 != zreg) ⟨"c.add", [reg rsd, reg rs2]⟩

omit [Platform] in
/-- `assembly`. -/
def ZcbInst.assembly : ZcbInst → Option Asm
  | .C_LBU uimm rdc rs1c => some ⟨"c.lbu", [creg rdc, hexBits uimm, creg rs1c]⟩
  | .C_LHU uimm rdc rs1c => some ⟨"c.lhu", [creg rdc, hexBits uimm, creg rs1c]⟩
  | .C_LH uimm rdc rs1c => some ⟨"c.lh", [creg rdc, hexBits uimm, creg rs1c]⟩
  | .C_SB uimm rs1c rs2c => some ⟨"c.sb", [creg rs2c, hexBits uimm, creg rs1c]⟩
  | .C_SH uimm rs1c rs2c => some ⟨"c.sh", [creg rs1c, hexBits uimm, creg rs2c]⟩
  | .C_ZEXT_B rsdc => some ⟨"c.zext.b", [creg rsdc]⟩
  | .C_SEXT_B rsdc => some ⟨"c.sext.b", [creg rsdc]⟩
  | .C_ZEXT_H rsdc => some ⟨"c.zext.h", [creg rsdc]⟩
  | .C_SEXT_H rsdc => some ⟨"c.sext.h", [creg rsdc]⟩
  | .C_ZEXT_W rsdc => some ⟨"c.zext.w", [creg rsdc]⟩
  | .C_NOT rsdc => some ⟨"c.not", [creg rsdc]⟩
  | .C_MUL rsdc rs2c => some ⟨"c.mul", [creg rsdc, creg rs2c]⟩

/-- `assembly`. -/
def ZcfInst.assembly : ZcfInst → Option Asm
  | .C_FLWSP imm rd => clause (decide (xlen = 32)) ⟨"c.flwsp", [reg rd, hexBits imm]⟩
  | .C_FSWSP uimm rs2 => clause (decide (xlen = 32)) ⟨"c.fswsp", [reg rs2, hexBits uimm]⟩
  | .C_FLW uimm rsc rdc =>
      clause (decide (xlen = 32)) ⟨"c.flw", [creg rdc, creg rsc, hexBits (uimm ++ 0b00#2)]⟩
  | .C_FSW uimm rsc1 rsc2 =>
      clause (decide (xlen = 32)) ⟨"c.fsw", [creg rsc1, creg rsc2, hexBits (uimm ++ 0b00#2)]⟩
  | .C_FLDSP uimm rd =>
      clause (decide (xlen = 32) || decide (xlen = 64)) ⟨"c.fldsp", [reg rd, hexBits uimm]⟩
  | .C_FSDSP uimm rs2 =>
      clause (decide (xlen = 32) || decide (xlen = 64)) ⟨"c.fsdsp", [reg rs2, hexBits uimm]⟩
  | .C_FLD uimm rsc rdc =>
      clause (decide (xlen = 32) || decide (xlen = 64))
        ⟨"c.fld", [creg rdc, creg rsc, hexBits (uimm ++ 0b000#3)]⟩
  | .C_FSD uimm rsc1 rsc2 =>
      clause (decide (xlen = 32) || decide (xlen = 64))
        ⟨"c.fsd", [creg rsc1, creg rsc2, hexBits (uimm ++ 0b000#3)]⟩

/-- `assembly` of the compressed instructions. -/
def Ast.assemblyCompressed : Ast → Option Asm
  | .ZCA i => i.assembly
  | .ZCB i => i.assembly
  | .ZCF i => i.assembly
  | _ => none

/-! ## The operands that an instruction uses -/

omit [Platform] in
/-- The load or store that a clause executes. -/
def ZcfInst.expansion : ZcfInst → FpInst
  | .C_FLWSP imm rd => .LOAD_FP ((imm ++ 0b00#2).setWidth 12) sp rd .WORD
  | .C_FSWSP uimm rs2 => .STORE_FP ((uimm ++ 0b00#2).setWidth 12) rs2 sp .WORD
  | .C_FLW uimm rsc rdc =>
      .LOAD_FP ((uimm ++ 0b00#2).setWidth 12) (creg2regIdx rsc) (creg2regIdx rdc) .WORD
  | .C_FSW uimm rsc1 rsc2 =>
      .STORE_FP ((uimm ++ 0b00#2).setWidth 12) (creg2regIdx rsc2) (creg2regIdx rsc1) .WORD
  | .C_FLDSP uimm rd => .LOAD_FP ((uimm ++ 0b000#3).setWidth 12) sp rd .DOUBLE
  | .C_FSDSP uimm rs2 => .STORE_FP ((uimm ++ 0b000#3).setWidth 12) rs2 sp .DOUBLE
  | .C_FLD uimm rsc rdc =>
      .LOAD_FP ((uimm ++ 0b000#3).setWidth 12) (creg2regIdx rsc) (creg2regIdx rdc) .DOUBLE
  | .C_FSD uimm rsc1 rsc2 =>
      .STORE_FP ((uimm ++ 0b000#3).setWidth 12) (creg2regIdx rsc2) (creg2regIdx rsc1) .DOUBLE

omit [Platform] in
/-- The register operands of an instruction, the one that is written, stored or compared first
and then the base or source, and its offset or immediate. -/
def BaseInst.used : BaseInst → Option (List Operand × ℤ)
  | .LOAD imm rs1 rd .. => some ([.x rd, .x rs1], imm.toInt)
  | .STORE imm rs2 rs1 .. => some ([.x rs2, .x rs1], imm.toInt)
  | .BTYPE imm rs2 rs1 _ => some ([.x rs1, .x rs2], imm.toInt)
  | .RISCV_JAL imm rd => some ([.x rd], imm.toInt)
  | .ITYPE imm rs1 rd _ => some ([.x rd, .x rs1], imm.toInt)
  | .ADDIW imm rs1 rd => some ([.x rd, .x rs1], imm.toInt)
  | .SHIFTIOP shamt rs1 rd _ => some ([.x rd, .x rs1], shamt.toNat)
  | .UTYPE imm rd _ => some ([.x rd], imm.toInt)
  | _ => none

omit [Platform] in
/-- The register operands and the offset of a floating-point load or store. -/
def FpInst.used : FpInst → Option (List Operand × ℤ)
  | .LOAD_FP imm rs1 rd _ => some ([.f rd, .x rs1], imm.toInt)
  | .STORE_FP imm rs2 rs1 _ => some ([.f rs2, .x rs1], imm.toInt)
  | _ => none

omit [Platform] in
/-- The operands of an instruction of 32 bits. -/
def Ast.used : Ast → Option (List Operand × ℤ)
  | .BASE i => i.used
  | .FP i => i.used
  | _ => none

omit [Platform] in
/-- The instruction that a compressed load, store, branch or instruction with an immediate
executes. -/
def Ast.delegate : Ast → Option Ast
  | .ZCA i => i.base.map .BASE
  | .ZCB (.C_LBU uimm rdc rs1c) => some (ZcbInst.C_LBU uimm rdc rs1c).expansion
  | .ZCB (.C_LHU uimm rdc rs1c) => some (ZcbInst.C_LHU uimm rdc rs1c).expansion
  | .ZCB (.C_LH uimm rdc rs1c) => some (ZcbInst.C_LH uimm rdc rs1c).expansion
  | .ZCB (.C_SB uimm rs1c rs2c) => some (ZcbInst.C_SB uimm rs1c rs2c).expansion
  | .ZCB (.C_SH uimm rs1c rs2c) => some (ZcbInst.C_SH uimm rs1c rs2c).expansion
  | .ZCF i => some (.FP i.expansion)
  | _ => none

/-- A compressed instruction executes the instruction whose operands are compared. -/
theorem Ast.run_delegate [SoftFloat] {i e : Ast} (h : i.delegate = some e) (t : State) :
    i.execute.run t = e.execute.run t := by
  cases i with
  | ZCA i =>
      obtain ⟨b, hb, rfl⟩ := Option.map_eq_some_iff.mp h
      change i.execute.run t = b.execute.run t
      unfold ZcaInst.execute
      rw [hb]
  | ZCB i => cases i <;> cases h <;> rfl
  | ZCF i => cases i <;> cases h <;> rfl
  | _ => cases h

/-! ## Agreement -/

/-- The printed names are those of the first operands, in their order; the operands that are not
printed are `x0`, `ra`, `sp` or printed ones.  The printed number is the offset or immediate. -/
def Agrees (ops : List AsmOperand) (used : List Operand × ℤ) : Prop :=
  numbers ops = [used.2]
    ∧ ∃ shown implied, used.1 = shown ++ implied
      ∧ List.Forall₂ (fun r name => r.Named name) shown (names ops)
      ∧ ∀ r ∈ implied, r ∈ [.x zreg, .x ra, .x sp] ∨ r ∈ shown

/-- The instruction has a text, and its operands are those that its execution uses. -/
def DisassemblyAgrees [SoftFloat] (i : Ast) : Prop :=
  ∃ a e used, i.assemblyCompressed = some a ∧ i.delegate = some e ∧ e.used = some used
    ∧ (∀ t, i.execute.run t = e.execute.run t) ∧ Agrees a.operands used

omit [Platform] in
/-- Where the text is right: the stores that print the base first have the same register twice, the
offsets that are printed without their scale are zero; the immediate of `c.addi16sp` and the
registers of floating-point loads and stores are never right. -/
def Ast.PrintsOperands : Ast → Prop
  | .ZCA (.C_SW _ rsc1 rsc2) | .ZCA (.C_SD _ rsc1 rsc2) | .ZCB (.C_SH _ rsc1 rsc2) => rsc1 = rsc2
  | .ZCA (.C_LWSP uimm _) | .ZCA (.C_LDSP uimm _) | .ZCA (.C_SWSP uimm _)
  | .ZCA (.C_SDSP uimm _) => uimm = 0#6
  | .ZCA (.C_BEQZ imm _) | .ZCA (.C_BNEZ imm _) => imm = 0#8
  | .ZCA (.C_ADDI16SP _) => False
  | .ZCF _ => False
  | _ => True

/-! ## Numbers -/

section Numbers

omit [Platform]

/-- An offset that is extended with zeros. -/
theorem toInt_setWidth_of_lt {n m : ℕ} (x : BitVec n) (h : n < m) :
    (x.setWidth m).toInt = x.toNat := by
  have hlt : x.toNat < 2 ^ n := x.isLt
  have hpow : 2 * 2 ^ n ≤ 2 ^ m := by
    rw [← pow_succ']
    exact Nat.pow_le_pow_right (by norm_num) h
  have hnat : (x.setWidth m).toNat = x.toNat := by
    rw [BitVec.toNat_setWidth, Nat.mod_eq_of_lt (by omega)]
  rw [BitVec.toInt_eq_toNat_of_lt (by omega), hnat]

/-- An offset that is scaled. -/
theorem toNat_append_zero {n : ℕ} (x : BitVec n) (k : ℕ) : (x ++ 0#k).toNat = x.toNat * 2 ^ k := by
  rw [BitVec.toNat_append, BitVec.toNat_ofNat, Nat.zero_mod, Nat.or_zero, Nat.shiftLeft_eq]

/-- The offset of a load or store, which is scaled and extended with zeros. -/
theorem toInt_scaled {n m : ℕ} (x : BitVec n) (k : ℕ) (h : n + k < m) :
    ((x ++ 0#k).setWidth m).toInt = x.toNat * 2 ^ k := by
  rw [toInt_setWidth_of_lt _ h, toNat_append_zero]
  push_cast
  rfl

/-- The offset of a branch, which is scaled and extended with its sign. -/
theorem toInt_signed {n m : ℕ} (x : BitVec n) (k : ℕ) (h : n + k ≤ m) :
    ((x ++ 0#k).signExtend m).toInt = 2 ^ k * x.toInt := by
  rw [BitVec.toInt_signExtend_of_le h, BitVec.toInt_append_zero]

end Numbers

/-! ## When the texts are right -/

section

omit [Platform]

variable {ops : List AsmOperand} {r q : Operand} {rs : List Operand} {n m : String}
  {ns : List String} {v w : ℤ}

/-- A text with both registers. -/
theorem agrees_two (hnum : numbers ops = [v]) (hname : names ops = [n, m]) (hv : v = w)
    (hr : r.Named n) (hq : q.Named m) : Agrees ops ([r, q], w) := by
  refine ⟨by rw [hnum, hv], [r, q], [], rfl, ?_, fun x hx => by cases hx⟩
  rw [hname]
  exact .cons hr (.cons hq .nil)

/-- A text with the first register. -/
theorem agrees_one (hnum : numbers ops = [v]) (hname : names ops = [n]) (hv : v = w)
    (hr : r.Named n) (hrs : ∀ q ∈ rs, q ∈ [.x zreg, .x ra, .x sp] ∨ q = r) :
    Agrees ops (r :: rs, w) := by
  refine ⟨by rw [hnum, hv], [r], rs, rfl, ?_, fun q hq => ?_⟩
  · rw [hname]
    exact .cons hr .nil
  · refine (hrs q hq).imp_right (fun h => ?_)
    rw [h]
    exact List.mem_singleton_self _

/-- A text without registers. -/
theorem agrees_none (hnum : numbers ops = [v]) (hname : names ops = []) (hv : v = w)
    (hr : r ∈ [Operand.x zreg, .x ra, .x sp]) : Agrees ops ([r], w) := by
  refine ⟨by rw [hnum, hv], [], [r], rfl, ?_, fun q hq => ?_⟩
  · rw [hname]
    exact .nil
  · rw [List.mem_singleton.mp hq]
    exact Or.inl hr

/-- The number that a right text prints. -/
theorem Agrees.number (h : Agrees ops (rs, w)) (hnum : numbers ops = [v]) : v = w := by
  have heq : numbers ops = [w] := h.1
  rw [hnum] at heq
  exact (List.cons.inj heq).1

/-- The first name that a right text prints. -/
theorem Agrees.head (h : Agrees ops (r :: rs, w)) (hname : names ops = n :: ns) : r.Named n := by
  obtain ⟨-, shown, implied, hsplit, hall, -⟩ := h
  rw [hname] at hall
  cases hall with
  | cons hr _ =>
      obtain ⟨rfl, -⟩ := List.cons.inj hsplit
      exact hr

/-- A stack-relative text is right if the offset is zero. -/
theorem agrees_stack_iff {k j : ℕ} (hj : 0 < j) {uimm : BitVec k} {imm : BitVec 12}
    (himm : imm.toInt = uimm.toNat * 2 ^ j) (rd : Regidx) :
    Agrees [reg rd, hexBits uimm] ([.x rd, .x sp], imm.toInt) ↔ uimm = 0#k := by
  constructor
  · intro h
    have heq : (uimm.toNat : ℤ) = imm.toInt := h.number rfl
    rw [himm] at heq
    have hpow : 2 ≤ 2 ^ j := Nat.le_self_pow hj.ne' 2
    have hnat : uimm.toNat = uimm.toNat * 2 ^ j := by exact_mod_cast heq
    have hzero : uimm.toNat = 0 := by nlinarith
    exact BitVec.eq_of_toNat_eq (by rw [hzero, BitVec.toNat_ofNat, Nat.zero_mod])
  · rintro rfl
    refine agrees_one rfl rfl ?_ (named_regName rd) (fun q hq => ?_)
    · rw [himm, BitVec.toNat_ofNat, Nat.zero_mod]
      simp
    · rw [List.mem_singleton.mp hq]
      exact Or.inl (by decide)

/-- The text of a branch on zero is right if the offset is zero. -/
theorem agrees_branch_iff {imm : BitVec 8} (rs : Cregidx) :
    Agrees [creg rs, hexBitsSigned imm]
        ([.x (creg2regIdx rs), .x zreg], ((imm ++ 0b0#1).signExtend 13).toInt)
      ↔ imm = 0#8 := by
  have hoff := toInt_signed (m := 13) imm 1 (by omega)
  constructor
  · intro h
    have heq : imm.toInt = ((imm ++ 0b0#1).signExtend 13).toInt := h.number rfl
    rw [hoff] at heq
    have hzero : imm.toInt = 0 := by omega
    exact BitVec.eq_of_toInt_eq (by rw [hzero]; rfl)
  · rintro rfl
    refine agrees_one rfl rfl rfl (named_cregName rs) (fun q hq => ?_)
    rw [List.mem_singleton.mp hq]
    exact Or.inl (by decide)

/-- A text with the base first is right if the base is stored. -/
theorem agrees_swapped_iff {c d : Cregidx} {ops : List AsmOperand} {v w : ℤ}
    (hnum : numbers ops = [v]) (hname : names ops = [cregName c, cregName d]) (hv : v = w) :
    Agrees ops ([.x (creg2regIdx d), .x (creg2regIdx c)], w) ↔ c = d := by
  constructor
  · intro h
    exact (named_cregName_iff.mp (h.head hname)).symm
  · rintro rfl
    exact agrees_two hnum hname hv (named_cregName c) (named_cregName c)

end

omit [Platform] in
/-- The existence of a text. -/
theorem exists_asm_iff {o : Option Asm} {a : Asm} {used : List Operand × ℤ} {P : Prop}
    (ha : o = some a) (h : Agrees a.operands used ↔ P) :
    (∃ a', o = some a' ∧ Agrees a'.operands used) ↔ P := by
  subst ha
  rw [← h]
  constructor
  · rintro ⟨a', ha', hagrees⟩
    cases ha'
    exact hagrees
  · intro hagrees
    exact ⟨a, rfl, hagrees⟩

/-- The text of a Zca instruction is right exactly where `PrintsOperands` says. -/
theorem ZcaInst.agrees_iff {i : ZcaInst} {b : BaseInst} {used : List Operand × ℤ} (hg : i.Guard)
    (hb : i.base = some b) (hu : b.used = some used) :
    (∃ a, i.assembly = some a ∧ Agrees a.operands used) ↔ (Ast.ZCA i).PrintsOperands := by
  have hself {r : Regidx} : ∀ q ∈ [Operand.x r], q ∈ [Operand.x zreg, .x ra, .x sp] ∨ q = .x r :=
    fun q hq => Or.inr (List.mem_singleton.mp hq)
  have hzero {r : Operand} : ∀ q ∈ [Operand.x zreg], q ∈ [Operand.x zreg, .x ra, .x sp] ∨ q = r :=
    fun q hq => Or.inl (by rw [List.mem_singleton.mp hq]; decide)
  have hsp {r : Operand} : ∀ q ∈ [Operand.x sp], q ∈ [Operand.x zreg, .x ra, .x sp] ∨ q = r :=
    fun q hq => Or.inl (by rw [List.mem_singleton.mp hq]; decide)
  have hnone {r : Operand} : ∀ q ∈ ([] : List Operand), q ∈ [Operand.x zreg, .x ra, .x sp] ∨ q = r :=
    fun q hq => by cases hq
  cases i with
  | C_ADDI4SPN rdc nzimm =>
      cases hb
      cases hu
      have himm : ∀ nzimm : BitVec 8,
          ((nzimm ++ 0b00#2).toNat : ℤ) = (0b00#2 ++ nzimm ++ 0b00#2).toInt := by decide +kernel
      exact exists_asm_iff (clause_eq_some.mpr ⟨bne_iff_ne.mpr hg, rfl⟩)
        (iff_true_intro (agrees_one rfl rfl (himm nzimm) (named_cregName rdc) hsp))
  | C_LW uimm rsc rdc =>
      cases hb
      cases hu
      exact exists_asm_iff rfl (iff_true_intro (agrees_two rfl rfl
        (toInt_setWidth_of_lt _ (by omega)).symm (named_cregName rdc) (named_cregName rsc)))
  | C_LD uimm rsc rdc =>
      cases hb
      cases hu
      exact exists_asm_iff (clause_eq_some.mpr ⟨decide_eq_true hg, rfl⟩)
        (iff_true_intro (agrees_two rfl rfl (toInt_setWidth_of_lt _ (by omega)).symm
          (named_cregName rdc) (named_cregName rsc)))
  | C_SW uimm rsc1 rsc2 =>
      cases hb
      cases hu
      exact exists_asm_iff rfl
        (agrees_swapped_iff rfl rfl (toInt_setWidth_of_lt _ (by omega)).symm)
  | C_SD uimm rsc1 rsc2 =>
      cases hb
      cases hu
      exact exists_asm_iff (clause_eq_some.mpr ⟨decide_eq_true hg, rfl⟩)
        (agrees_swapped_iff rfl rfl (toInt_setWidth_of_lt _ (by omega)).symm)
  | C_ADDI nzi rsd =>
      cases hb
      cases hu
      exact exists_asm_iff (clause_eq_some.mpr ⟨by simp [hg.1, hg.2], rfl⟩)
        (iff_true_intro (agrees_one rfl rfl (BitVec.toInt_signExtend_of_le (by omega)).symm
          (named_regName rsd) hself))
  | C_JAL imm =>
      cases hb
      cases hu
      exact exists_asm_iff (clause_eq_some.mpr ⟨decide_eq_true hg, rfl⟩)
        (iff_true_intro (agrees_none rfl rfl (BitVec.toInt_signExtend_of_le (by omega)).symm
          (by decide)))
  | C_ADDIW imm rsd =>
      cases hb
      cases hu
      exact exists_asm_iff (clause_eq_some.mpr ⟨decide_eq_true hg.2, rfl⟩)
        (iff_true_intro (agrees_one rfl rfl (BitVec.toInt_signExtend_of_le (by omega)).symm
          (named_regName rsd) hself))
  | C_LI imm rd =>
      cases hb
      cases hu
      exact exists_asm_iff (clause_eq_some.mpr ⟨bne_iff_ne.mpr hg, rfl⟩)
        (iff_true_intro (agrees_one rfl rfl (BitVec.toInt_signExtend_of_le (by omega)).symm
          (named_regName rd) hzero))
  | C_ADDI16SP imm =>
      cases hb
      cases hu
      refine exists_asm_iff (clause_eq_some.mpr ⟨bne_iff_ne.mpr hg, rfl⟩)
        (iff_false_intro fun h => hg ?_)
      have heq : imm.toInt = ((imm ++ 0x0#4).signExtend 12).toInt := h.number rfl
      rw [toInt_signed imm 4 (by omega)] at heq
      have hzero : imm.toInt = 0 := by omega
      exact BitVec.eq_of_toInt_eq (by rw [hzero]; rfl)
  | C_LUI imm rd =>
      cases hb
      cases hu
      exact exists_asm_iff (clause_eq_some.mpr ⟨by simp [hg.1, hg.2.1, hg.2.2], rfl⟩)
        (iff_true_intro (agrees_one rfl rfl (BitVec.toInt_signExtend_of_le (by omega)).symm
          (named_regName rd) hnone))
  | C_SRLI shamt rsd | C_SRAI shamt rsd =>
      cases hb
      cases hu
      exact exists_asm_iff (clause_eq_some.mpr ⟨bne_iff_ne.mpr hg.1, rfl⟩)
        (iff_true_intro (agrees_one rfl rfl rfl (named_cregName rsd) hself))
  | C_ANDI imm rsd =>
      cases hb
      cases hu
      exact exists_asm_iff rfl
        (iff_true_intro (agrees_one rfl rfl (BitVec.toInt_signExtend_of_le (by omega)).symm
          (named_cregName rsd) hself))
  | C_J imm =>
      cases hb
      cases hu
      exact exists_asm_iff rfl
        (iff_true_intro (agrees_none rfl rfl (BitVec.toInt_signExtend_of_le (by omega)).symm
          (by decide)))
  | C_BEQZ imm rs | C_BNEZ imm rs =>
      cases hb
      cases hu
      exact exists_asm_iff rfl (agrees_branch_iff rs)
  | C_SLLI shamt rsd =>
      cases hb
      cases hu
      exact exists_asm_iff (clause_eq_some.mpr ⟨by simp [hg.1, hg.2.1], rfl⟩)
        (iff_true_intro (agrees_one rfl rfl rfl (named_regName rsd) hself))
  | C_LWSP uimm rd =>
      cases hb
      cases hu
      exact exists_asm_iff (clause_eq_some.mpr ⟨bne_iff_ne.mpr hg, rfl⟩)
        (agrees_stack_iff (by omega) (toInt_scaled uimm 2 (by omega)) rd)
  | C_LDSP uimm rd =>
      cases hb
      cases hu
      exact exists_asm_iff (clause_eq_some.mpr ⟨by simp [hg.1, hg.2], rfl⟩)
        (agrees_stack_iff (by omega) (toInt_scaled uimm 3 (by omega)) rd)
  | C_SWSP uimm rs2 =>
      cases hb
      cases hu
      exact exists_asm_iff rfl (agrees_stack_iff (by omega) (toInt_scaled uimm 2 (by omega)) rs2)
  | C_SDSP uimm rs2 =>
      cases hb
      cases hu
      exact exists_asm_iff (clause_eq_some.mpr ⟨decide_eq_true hg, rfl⟩)
        (agrees_stack_iff (by omega) (toInt_scaled uimm 3 (by omega)) rs2)
  | C_NOP => cases hb
  | _ =>
      cases hb
      cases hu

omit [Platform] in
/-- The text of a Zcb load or store is right unless it is `c.sh` with different registers. -/
theorem ZcbInst.agrees_iff {i : ZcbInst} {e : Ast} {used : List Operand × ℤ}
    (he : (Ast.ZCB i).delegate = some e) (hu : e.used = some used) :
    (∃ a, i.assembly = some a ∧ Agrees a.operands used) ↔ (Ast.ZCB i).PrintsOperands := by
  cases i with
  | C_LBU uimm rdc rs1c | C_LHU uimm rdc rs1c | C_LH uimm rdc rs1c =>
      cases he
      cases hu
      exact exists_asm_iff rfl (iff_true_intro (agrees_two rfl rfl
        (toInt_setWidth_of_lt _ (by omega)).symm (named_cregName rdc) (named_cregName rs1c)))
  | C_SB uimm rs1c rs2c =>
      cases he
      cases hu
      exact exists_asm_iff rfl (iff_true_intro (agrees_two rfl rfl
        (toInt_setWidth_of_lt _ (by omega)).symm (named_cregName rs2c) (named_cregName rs1c)))
  | C_SH uimm rs1c rs2c =>
      cases he
      cases hu
      exact exists_asm_iff rfl
        (agrees_swapped_iff rfl rfl (toInt_setWidth_of_lt _ (by omega)).symm)
  | _ => cases he

/-- The text of a floating-point load or store names an integer register. -/
theorem ZcfInst.not_agrees {i : ZcfInst} {a : Asm} {used : List Operand × ℤ}
    (hu : i.expansion.used = some used) (ha : i.assembly = some a) : ¬ Agrees a.operands used := by
  intro h
  cases i with
  | C_FLWSP _ rd | C_FSWSP _ rd | C_FLDSP _ rd | C_FSDSP _ rd =>
      cases hu
      obtain ⟨-, rfl⟩ := clause_eq_some.mp ha
      exact (not_named_f rd).1 rd (h.head rfl)
  | C_FLW _ _ r | C_FLD _ _ r =>
      cases hu
      obtain ⟨-, rfl⟩ := clause_eq_some.mp ha
      exact (not_named_f (creg2regIdx r)).2 r (h.head rfl)
  | C_FSW _ rsc1 rsc2 | C_FSD _ rsc1 rsc2 =>
      cases hu
      obtain ⟨-, rfl⟩ := clause_eq_some.mp ha
      exact (not_named_f (creg2regIdx rsc2)).2 rsc1 (h.head rfl)

/-- **The text of a compressed load, store, branch or instruction with an immediate shows the
operands of its execution exactly where `PrintsOperands` says.** -/
theorem disassembly_agrees_iff [SoftFloat] {s : State} {h : BitVec 16} {i e : Ast}
    {used : List Operand × ℤ} (hdec : decodeLegalCompressed s h = some i)
    (he : i.delegate = some e) (hu : e.used = some used) :
    DisassemblyAgrees i ↔ i.PrintsOperands := by
  have hagrees : DisassemblyAgrees i
      ↔ ∃ a, i.assemblyCompressed = some a ∧ Agrees a.operands used := by
    constructor
    · rintro ⟨a, e', used', ha, he', hu', -, hag⟩
      rw [he] at he'
      cases he'
      rw [hu] at hu'
      cases hu'
      exact ⟨a, ha, hag⟩
    · rintro ⟨a, ha, hag⟩
      exact ⟨a, e, used, ha, he, hu, Ast.run_delegate he, hag⟩
  rw [hagrees]
  unfold decodeLegalCompressed at hdec
  revert he
  refine firstClause_some (P := fun i : Ast => i.delegate = some e →
    ((∃ a, i.assemblyCompressed = some a ∧ Agrees a.operands used) ↔ i.PrintsOperands)) ?_ hdec
  simp only [List.mem_cons, forall_eq_or_imp, Option.map_eq_some_iff, List.not_mem_nil,
    false_imp_iff, implies_true, and_true]
  refine ⟨?_, ?_, ?_, ?_⟩
  · rintro _ ⟨i, hi, rfl⟩ he
    obtain ⟨b, hb, rfl⟩ := Option.map_eq_some_iff.mp he
    exact ZcaInst.agrees_iff (ZcaInst.guard_of_decode hi) hb hu
  · rintro _ ⟨i, -, rfl⟩ he
    cases he
  · rintro _ ⟨i, -, rfl⟩ he
    cases he
    refine iff_false_intro ?_
    rintro ⟨a, ha, hag⟩
    exact ZcfInst.not_agrees hu ha hag
  · rintro _ ⟨i, -, rfl⟩ he
    exact ZcbInst.agrees_iff he hu

omit [Platform] in
/-- `c.lw s1, (s0)` with the offset 4. -/
theorem disassembly_agrees_lw :
    letI := rv64Pmp 16 (by decide)
    letI : SoftFloat := default
    DisassemblyAgrees (.ZCA (.C_LW 1#5 0#3 1#3)) := by
  let := rv64Pmp 16 (by decide)
  let : SoftFloat := default
  let s := { State.zero (fun _ => 0#8) with misa := BitVec.allOnes _ }
  have hdec : decodeLegalCompressed s 0x4044#16 = some (.ZCA (.C_LW 1#5 0#3 1#3)) := by
    decide +kernel
  exact (disassembly_agrees_iff hdec rfl rfl).mpr trivial

omit [Platform] in
/-- `c.sw` of `s1` to the address in `s0` prints `s0, s1`; `c.lwsp` with the offset 4 prints 1;
`c.beqz` with the offset 2 prints 1. -/
theorem disassembly_disagrees :
    letI := rv64Pmp 16 (by decide)
    letI : SoftFloat := default
    let s := { State.zero (fun _ => 0#8) with misa := BitVec.allOnes _ }
    (decodeLegalCompressed s 0xC004#16 = some (.ZCA (.C_SW 0#5 0#3 1#3))
        ∧ ¬ DisassemblyAgrees (.ZCA (.C_SW 0#5 0#3 1#3)))
      ∧ (decodeLegalCompressed s 0x4092#16 = some (.ZCA (.C_LWSP 1#6 ra))
        ∧ ¬ DisassemblyAgrees (.ZCA (.C_LWSP 1#6 ra)))
      ∧ decodeLegalCompressed s 0xC009#16 = some (.ZCA (.C_BEQZ 1#8 0#3))
        ∧ ¬ DisassemblyAgrees (.ZCA (.C_BEQZ 1#8 0#3)) := by
  let := rv64Pmp 16 (by decide)
  let : SoftFloat := default
  refine ⟨⟨by decide +kernel, ?_⟩, ⟨by decide +kernel, ?_⟩, by decide +kernel, ?_⟩
  · rintro ⟨a, e, used, ha, he, hu, -, hag⟩
    cases ha
    cases he
    cases hu
    exact absurd (named_cregName_iff.mp (hag.head rfl)) (by decide)
  · rintro ⟨a, e, used, ha, he, hu, -, hag⟩
    cases ha
    cases he
    cases hu
    exact absurd (hag.number rfl) (by decide)
  · rintro ⟨a, e, used, ha, he, hu, -, hag⟩
    cases ha
    cases he
    cases hu
    exact absurd (hag.number rfl) (by decide)

end SailRiscv
