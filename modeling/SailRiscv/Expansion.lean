/-
# Expansions of compressed instructions

The instruction of 32 bits that a compressed instruction abbreviates.  It executes in the same way,
and where the compressed instruction is decoded, it has an encoding that is decoded to it.
-/
import SailRiscv.Overlap

namespace SailRiscv

open Bits Platform

variable [Platform]

/-! ## Expansions -/

/-- The instruction that a clause abbreviates: what it executes, and `addi x0, x0, 0`
for `c.nop`. -/
def ZcaInst.expansion (i : ZcaInst) : BaseInst := i.base.getD (.ITYPE 0#12 zreg zreg .RISCV_ADDI)

/-- The instruction that a clause abbreviates. -/
def ZcbInst.expansion : ZcbInst → Ast
  | .C_LBU uimm rdc rs1c => .BASE (.LOAD (uimm.setWidth 12) (creg2regIdx rs1c) (creg2regIdx rdc)
      true .BYTE false false)
  | .C_LHU uimm rdc rs1c => .BASE (.LOAD (uimm.setWidth 12) (creg2regIdx rs1c) (creg2regIdx rdc)
      true .HALF false false)
  | .C_LH uimm rdc rs1c => .BASE (.LOAD (uimm.setWidth 12) (creg2regIdx rs1c) (creg2regIdx rdc)
      false .HALF false false)
  | .C_SB uimm rs1c rs2c => .BASE (.STORE (uimm.setWidth 12) (creg2regIdx rs2c) (creg2regIdx rs1c)
      .BYTE false false)
  | .C_SH uimm rs1c rs2c => .BASE (.STORE (uimm.setWidth 12) (creg2regIdx rs2c) (creg2regIdx rs1c)
      .HALF false false)
  | .C_ZEXT_B rsdc => .BASE (.ITYPE 255#12 (creg2regIdx rsdc) (creg2regIdx rsdc) .RISCV_ANDI)
  | .C_SEXT_B rsdc => .ZBB (.ZBB_EXTOP (creg2regIdx rsdc) (creg2regIdx rsdc) .RISCV_SEXTB)
  | .C_ZEXT_H rsdc => .ZBB (.ZBB_EXTOP (creg2regIdx rsdc) (creg2regIdx rsdc) .RISCV_ZEXTH)
  | .C_SEXT_H rsdc => .ZBB (.ZBB_EXTOP (creg2regIdx rsdc) (creg2regIdx rsdc) .RISCV_SEXTH)
  | .C_ZEXT_W rsdc =>
      .ZBA (.ZBA_RTYPEUW 0b00000#5 (creg2regIdx rsdc) (creg2regIdx rsdc) .RISCV_ADDUW)
  | .C_NOT rsdc => .BASE (.ITYPE 0xFFF#12 (creg2regIdx rsdc) (creg2regIdx rsdc) .RISCV_XORI)
  | .C_MUL rsdc rs2c => .MUL (.MUL (creg2regIdx rs2c) (creg2regIdx rsdc) (creg2regIdx rsdc)
      ⟨false, true, true⟩)

/-- The instruction of 32 bits that an instruction of Zca or Zcb abbreviates. -/
def Ast.expansion : Ast → Option Ast
  | .ZCA i => some (.BASE i.expansion)
  | .ZCB i => some i.expansion
  | _ => none

/-! ## The same execution -/

/-- The addition of zero to `x0` changes nothing. -/
theorem run_nop (t : State) :
    (BaseInst.ITYPE 0#12 zreg zreg .RISCV_ADDI).execute.run t = .ok (.RETIRE_SUCCESS, t) := by
  have hset (v : Xlenbits) : t.setX zreg v = t := if_pos rfl
  change Except.ok (Retired.RETIRE_SUCCESS, t.setX zreg _) = _
  rw [hset]

/-- A clause of Zca executes as its expansion does. -/
theorem ZcaInst.run_expansion (i : ZcaInst) (t : State) :
    i.execute.run t = i.expansion.execute.run t := by
  unfold ZcaInst.execute ZcaInst.expansion
  cases hb : i.base with
  | none =>
      rw [Option.getD_none, run_nop]
      rfl
  | some b => rfl

/-- The lowest byte is what `andi` with 255 keeps. -/
theorem zext_byte (v : Xlenbits) : (bits v 0 8).setWidth xlen = v &&& (255#12).signExtend xlen := by
  have hx := xlen_ge
  have hmsb : (255#12).msb = false := by decide
  rw [BitVec.signExtend_eq_setWidth_of_msb_false hmsb]
  apply BitVec.eq_of_getLsbD_eq
  intro k hk
  unfold bits
  rw [BitVec.getLsbD_and, BitVec.getLsbD_setWidth, BitVec.getLsbD_setWidth,
    BitVec.getLsbD_extractLsb', Nat.zero_add]
  by_cases h : k < 8
  · have hone : (255#12).getLsbD k = true := by
      interval_cases k <;> rfl
    simp [hone, h, hk]
  · have hzero : (255#12).getLsbD k = false := by
      rw [BitVec.getLsbD_ofNat, Nat.testBit_lt_two_pow (by
        calc 255 < 2 ^ 8 := by norm_num
          _ ≤ 2 ^ k := Nat.pow_le_pow_right (by norm_num) (by omega))]
      simp
    simp [hzero, h]

/-- The complement is what `xori` with -1 gives. -/
theorem xor_neg_one (v : Xlenbits) : ~~~v = v ^^^ (0xFFF#12).signExtend xlen := by
  have hones : (0xFFF#12).signExtend xlen = BitVec.allOnes xlen := by
    apply BitVec.eq_of_getLsbD_eq
    intro k hk
    have hmsb : (0xFFF#12).msb = true := by decide
    rw [BitVec.getLsbD_signExtend, hmsb, BitVec.getLsbD_allOnes]
    by_cases h : k < 12
    · have hone : (0xFFF#12).getLsbD k = true := by
        interval_cases k <;> rfl
      simp only [h, hone, if_true, Bool.and_true]
    · simp only [h, if_false, Bool.and_true]
  rw [hones, BitVec.xor_allOnes]

/-- A clause of Zcb executes as its expansion does. -/
theorem ZcbInst.run_expansion [SoftFloat] (i : ZcbInst) (t : State) :
    i.execute.run t = i.expansion.execute.run t := by
  cases i with
  | C_ZEXT_B rsdc =>
      unfold ZcbInst.execute ZcbInst.expansion Ast.execute BaseInst.execute Iop.result
      simp only [zext_byte]
  | C_NOT rsdc =>
      unfold ZcbInst.execute ZcbInst.expansion Ast.execute BaseInst.execute Iop.result
      simp only [xor_neg_one]
  | _ => rfl

/-- **A compressed instruction executes as its expansion does.** -/
theorem Ast.run_expansion [SoftFloat] {i e : Ast} (h : i.expansion = some e) (t : State) :
    i.execute.run t = e.execute.run t := by
  cases i with
  | ZCA i =>
      cases h
      exact i.run_expansion t
  | ZCB i =>
      cases h
      exact i.run_expansion t
  | _ => cases h

/-! ## Guards -/

/-- The conditions of the clauses of `encdec_compressed` on the fields. -/
def ZcaInst.Guard : ZcaInst → Prop
  | .C_ADDI4SPN _ nzimm => nzimm ≠ 0#8
  | .C_LD .. | .C_SD .. | .C_SUBW .. | .C_ADDW .. | .C_SDSP .. => xlen = 64
  | .C_ADDI nzi rsd => nzi ≠ 0#6 ∧ rsd ≠ zreg
  | .C_JAL _ => xlen = 32
  | .C_ADDIW _ rsd => rsd ≠ zreg ∧ xlen = 64
  | .C_LI _ rd => rd ≠ zreg
  | .C_ADDI16SP imm => imm ≠ 0#6
  | .C_LUI imm rd => rd ≠ zreg ∧ rd ≠ sp ∧ imm ≠ 0#6
  | .C_SRLI shamt _ | .C_SRAI shamt _ => shamt ≠ 0#6 ∧ (xlen = 64 ∨ bits shamt 5 1 = 0b0#1)
  | .C_SLLI shamt rsd => shamt ≠ 0#6 ∧ rsd ≠ zreg ∧ (xlen = 64 ∨ bits shamt 5 1 = 0b0#1)
  | .C_LWSP _ rd => rd ≠ zreg
  | .C_LDSP _ rd => rd ≠ zreg ∧ xlen = 64
  | .C_JR rs1 | .C_JALR rs1 => rs1 ≠ zreg
  | .C_MV rd rs2 | .C_ADD rd rs2 => rd ≠ zreg ∧ rs2 ≠ zreg
  | _ => True

/-- The conditions of the clauses of `encdec_compressed` on the extensions. -/
def ZcbInst.Guard (s : State) : ZcbInst → Prop
  | .C_SEXT_B _ | .C_ZEXT_H _ | .C_SEXT_H _ => extensionEnabled s .Zbb = true
  | .C_ZEXT_W _ => extensionEnabled s .Zba = true ∧ xlen = 64
  | .C_MUL .. => (extensionEnabled s .M || extensionEnabled s .Zmmul) = true
  | _ => True

omit [Platform] in
/-- The highest bit of the immediate in the bits 12 and 6..2. -/
theorem bits_imm6Of (h : BitVec 16) : bits (imm6Of h) 5 1 = bits h 12 1 := by
  have hsplit := append_eq_bits (m := 1) (n := 5) (x := bits h 12 1) (y := bits h 2 5)
    (v := imm6Of h) (i := 0)
  have hself : bits h 12 1 ++ bits h 2 5 = bits (imm6Of h) 0 6 := (bits_self (imm6Of h)).symm
  exact (hsplit.mp hself).1.symm

/-- What Zca decodes fulfils the conditions of its clause. -/
theorem ZcaInst.guard_of_decode {s : State} {h : BitVec 16} {i : ZcaInst}
    (hdec : ZcaInst.decode s h = some i) : i.Guard := by
  unfold ZcaInst.decode at hdec
  refine firstClause_some (P := fun i => ZcaInst.Guard i) ?_ hdec
  clear hdec
  simp only [List.mem_cons, forall_eq_or_imp, clause_eq_some, List.not_mem_nil, false_imp_iff,
    implies_true, and_true]
  and_intros
  all_goals
    rintro _ ⟨hc, rfl⟩
    simp only [Bool.and_eq_true, Bool.or_eq_true, decide_eq_true_eq, beq_iff_eq, bne_iff_ne] at hc
    simp only [ZcaInst.Guard, bits_imm6Of]
    try tauto

/-- What Zcb decodes fulfils the conditions of its clause. -/
theorem ZcbInst.guard_of_decode {s : State} {h : BitVec 16} {i : ZcbInst}
    (hdec : ZcbInst.decode s h = some i) : i.Guard s := by
  unfold ZcbInst.decode at hdec
  refine firstClause_some (P := fun i => ZcbInst.Guard s i) ?_ hdec
  clear hdec
  simp only [List.mem_cons, forall_eq_or_imp, clause_eq_some, List.not_mem_nil, false_imp_iff,
    implies_true, and_true]
  and_intros
  all_goals
    rintro _ ⟨hc, rfl⟩
    simp only [Bool.and_eq_true, Bool.or_eq_true, decide_eq_true_eq, beq_iff_eq] at hc
    simp only [ZcbInst.Guard, Bool.or_eq_true]
    try tauto

/-! ## Encodings -/

/-- The expansion of a clause whose conditions hold has an encoding. -/
theorem ZcaInst.exists_encode {i : ZcaInst} (h : i.Guard) :
    ∃ w, i.expansion.encode = some w ∧ i.expansion.Decodable := by
  have heven {m n : ℕ} (imm : BitVec m) :
      (bits ((imm ++ 0b0#1).signExtend (n + 1)) 0 1 == 0b0#1) = true := by
    rw [beq_iff_eq]
    apply BitVec.eq_of_getLsbD_eq
    intro k hk
    obtain rfl : k = 0 := by omega
    unfold bits
    rw [BitVec.getLsbD_extractLsb', BitVec.getLsbD_signExtend, BitVec.getLsbD_append]
    simp
  have hword : sizeBytes .WORD ≤ xlenBytes := by
    unfold xlenBytes
    rcases Platform.xlen_eq with hx | hx <;> rw [hx] <;> decide
  have hdouble (hx : xlen = 64) : sizeBytes .DOUBLE ≤ xlenBytes := by
    unfold xlenBytes
    rw [hx]
    decide
  cases i with
  | C_LW | C_LWSP => exact ⟨_, clause_eq_some.mpr ⟨by simp [hword], rfl⟩, trivial⟩
  | C_SW | C_SWSP => exact ⟨_, clause_eq_some.mpr ⟨by simp [hword], rfl⟩, trivial⟩
  | C_LD | C_SD | C_SDSP => exact ⟨_, clause_eq_some.mpr ⟨by simp [hdouble h], rfl⟩, trivial⟩
  | C_LDSP => exact ⟨_, clause_eq_some.mpr ⟨by simp [hdouble h.2], rfl⟩, trivial⟩
  | C_JAL | C_J => exact ⟨_, clause_eq_some.mpr ⟨heven _, rfl⟩, trivial⟩
  | C_BEQZ | C_BNEZ => exact ⟨_, clause_eq_some.mpr ⟨heven _, rfl⟩, trivial⟩
  | C_ADDIW => exact ⟨_, clause_eq_some.mpr ⟨decide_eq_true h.2, rfl⟩, trivial⟩
  | C_SUBW | C_ADDW => exact ⟨_, clause_eq_some.mpr ⟨decide_eq_true h, rfl⟩, trivial⟩
  | C_SRLI | C_SRAI => exact ⟨_, rfl, h.2⟩
  | C_SLLI => exact ⟨_, rfl, h.2.2⟩
  | _ => exact ⟨_, rfl, trivial⟩

/-- The base instructions are tried first. -/
theorem decodeLegal_base {s : State} {w : BitVec 32} {i : BaseInst} (h : i.encode = some w)
    (hdec : i.Decodable) : decodeLegal s w = some (.BASE i) := by
  unfold decodeLegal
  rw [BaseInst.decode_of_encode h hdec]
  rfl

/-- The opcodes of the arithmetic instructions are not those of floating-point instructions. -/
theorem FpInst.decode_eq_none {s : State} {w : BitVec 32}
    (h : bits w 0 7 ∈ [0b0110011#7, 0b0111011#7, 0b0010011#7]) : FpInst.decode s w = none := by
  have hload : (bits w 0 7 == 0b0000111#7) = false := by
    simp only [List.mem_cons, List.not_mem_nil, or_false] at h
    rcases h with h | h | h <;> rw [h] <;> rfl
  have hstore : (bits w 0 7 == 0b0100111#7) = false := by
    simp only [List.mem_cons, List.not_mem_nil, or_false] at h
    rcases h with h | h | h <;> rw [h] <;> rfl
  have hop : (bits w 0 7 == 0b1010011#7) = false := by
    simp only [List.mem_cons, List.not_mem_nil, or_false] at h
    rcases h with h | h | h <;> rw [h] <;> rfl
  have hmadd : encdecFMaddOp.lookup (bits w 0 7) = none := by
    simp only [List.mem_cons, List.not_mem_nil, or_false] at h
    rcases h with h | h | h <;> rw [h] <;> rfl
  have hdecodeOp (f : FpFormat) : FpInst.decodeOp s w f = none := by
    unfold FpInst.decodeOp guarded
    rw [hop, hmadd]
    cases decodeRoundingMode (bits w 12 3) <;> rfl
  have hconv (g : FpFormat) : FpInst.decodeConversion s w g = none := by
    unfold FpInst.decodeConversion
    rw [hop]
    rfl
  unfold FpInst.decode
  rw [hload, hstore]
  cases fpFormatOf (bits w 25 2) with
  | none => rfl
  | some f =>
      rw [Option.bind_some, Option.bind_some, hdecodeOp, hconv]
      rfl

/-- A word of one family is not of another. -/
theorem decodeIn_eq_none {s : State} {w : BitVec 32} {o : Owner} (ho : owner w ≠ o)
    (hzbb : o ≠ .ZBB) (hzbkb : o ≠ .ZBKB) : decodeIn s w o = none := by
  cases h : decodeIn s w o with
  | none => rfl
  | some t =>
      have hown : t.owner = o := by
        cases o <;> first
          | cases h
          | obtain ⟨i, -, rfl⟩ := Option.map_eq_some_iff.mp h; rfl
      rcases (encode_of_decodeIn h).2 with ht | ht
      · exact absurd (ht.trans hown) ho
      · cases t with
        | ZBB i => exact absurd hown.symm hzbb
        | ZBKB i => exact absurd hown.symm hzbkb
        | _ => exact ht.elim

/-- The instructions for multiplication, address generation and bit manipulation: the families
before theirs do not decode their words. -/
theorem decodeLegal_of_decodeIn {s : State} {w : BitVec 32} {e : Ast}
    (hop : bits w 0 7 ∈ [0b0110011#7, 0b0111011#7, 0b0010011#7])
    (ho : owner w = e.owner ∨ e.owner = .ZBB ∧ owner w = .PACKS)
    (he : e.owner ∈ [.MUL, .ZBA, .ZBB]) (h : decodeIn s w e.owner = some e) :
    decodeLegal s w = some e := by
  have hnone {o : Owner} (hne : e.owner ≠ o) (hpacks : o ≠ .PACKS) (hzbb : o ≠ .ZBB)
      (hzbkb : o ≠ .ZBKB) : decodeIn s w o = none := by
    refine decodeIn_eq_none ?_ hzbb hzbkb
    rcases ho with ho | ⟨-, ho⟩
    · rw [ho]
      exact hne
    · rw [ho]
      exact hpacks.symm
  have hfp : (FpInst.decode s w).map Ast.FP = none := by
    rw [FpInst.decode_eq_none hop]
    rfl
  have hother {o : Owner} (hne : o ∉ [Owner.MUL, .ZBA, .ZBB]) (hpacks : o ≠ .PACKS)
      (hzbkb : o ≠ .ZBKB) : decodeIn s w o = none := by
    refine hnone (fun heq => hne (heq ▸ he)) hpacks (fun heq => hne ?_) hzbkb
    rw [heq]
    decide
  have hbase := hother (o := .BASE) (by decide) (by decide) (by decide)
  have hfencei := hother (o := .ZIFENCEI) (by decide) (by decide) (by decide)
  have hatomic := hother (o := .ATOMIC) (by decide) (by decide) (by decide)
  have hcsr := hother (o := .CSR) (by decide) (by decide) (by decide)
  have hhint := hother (o := .FENCE_HINT) (by decide) (by decide) (by decide)
  have hinval := hother (o := .SVINVAL) (by decide) (by decide) (by decide)
  unfold decodeIn at hbase hfencei hatomic hcsr hhint hinval
  simp only [List.mem_cons, List.not_mem_nil, or_false] at he
  unfold decodeLegal firstClause
  rcases he with he | he | he
  · rw [he] at h
    unfold decodeIn at h
    simp only [List.findSome?_cons, id_eq, hbase, hfencei, hatomic, h]
  · have hmul := hnone (o := .MUL) (by rw [he]; decide) (by decide) (by decide) (by decide)
    rw [he] at h
    unfold decodeIn at h hmul
    simp only [List.findSome?_cons, id_eq, hbase, hfencei, hatomic, hmul, hcsr, hhint, hfp, hinval,
      h]
  · have hmul := hnone (o := .MUL) (by rw [he]; decide) (by decide) (by decide) (by decide)
    have hzba := hnone (o := .ZBA) (by rw [he]; decide) (by decide) (by decide) (by decide)
    rw [he] at h
    unfold decodeIn at h hmul hzba
    simp only [List.findSome?_cons, id_eq, hbase, hfencei, hatomic, hmul, hcsr, hhint, hfp, hinval,
      hzba, h]

/-- An encoding of an arithmetic instruction outside the base is decoded to it. -/
theorem exists_decodeLegal {s : State} {e : Ast} {f7 : BitVec 7} {f3 : BitVec 3}
    {opcode : BitVec 7} {rs2 rs1 rd : Regidx}
    (h : e.encode s = some (rtypeWord f7 rs2 rs1 f3 rd opcode)) (hdec : e.Decodable)
    (hop : opcode ∈ [0b0110011#7, 0b0111011#7, 0b0010011#7]) (he : e.owner ∈ [.MUL, .ZBA, .ZBB])
    (ho : owner (rtypeWord f7 rs2 rs1 f3 rd opcode) = e.owner
      ∨ e.owner = .ZBB ∧ owner (rtypeWord f7 rs2 rs1 f3 rd opcode) = .PACKS) :
    ∃ w, e.encode s = some w ∧ decodeLegal s w = some e := by
  have hmatch : e.Matches s (rtypeWord f7 rs2 rs1 f3 rd opcode) := ⟨h, hdec⟩
  obtain ⟨-, -, -, -, -, h₀⟩ :=
    rtypeWord_eq_iff.mp (rfl : rtypeWord f7 rs2 rs1 f3 rd opcode = _)
  exact ⟨_, h, decodeLegal_of_decodeIn (h₀ ▸ hop) ho he hmatch.decodeIn⟩

/-- The expansion of a clause whose conditions hold has an encoding, from which it is decoded. -/
theorem ZcbInst.exists_encode {s : State} {i : ZcbInst} (h : i.Guard s) :
    ∃ w, i.expansion.encode s = some w ∧ decodeLegal s w = some i.expansion := by
  have hbyte : sizeBytes .BYTE < xlenBytes := by
    unfold xlenBytes
    rcases Platform.xlen_eq with hx | hx <;> rw [hx] <;> decide
  have hhalf : sizeBytes .HALF < xlenBytes := by
    unfold xlenBytes
    rcases Platform.xlen_eq with hx | hx <;> rw [hx] <;> decide
  have hbase {b : BaseInst} {w : BitVec 32} (hw : b.encode = some w) (hb : b.Decodable) :
      ∃ w, Ast.encode s (.BASE b) = some w ∧ decodeLegal s w = some (.BASE b) :=
    ⟨w, hw, decodeLegal_base hw hb⟩
  have hop {f7 : BitVec 7} {rs2 rs1 rd : Regidx} {f3 : BitVec 3} {o : Owner}
      (ho : opOwner f7 f3 = o) : owner (rtypeWord f7 rs2 rs1 f3 rd 0b0110011#7) = o := by
    obtain ⟨h₇, -, -, h₃, -, h₀⟩ :=
      rtypeWord_eq_iff.mp (rfl : rtypeWord f7 rs2 rs1 f3 rd 0b0110011#7 = _)
    exact owner_op h₇.symm h₃.symm h₀.symm ho
  have hop32 {f7 : BitVec 7} {rs2 rs1 rd : Regidx} {f3 : BitVec 3} {o : Owner}
      (ho : op32Owner f7 f3 = o) : owner (rtypeWord f7 rs2 rs1 f3 rd 0b0111011#7) = o := by
    obtain ⟨h₇, -, -, h₃, -, h₀⟩ :=
      rtypeWord_eq_iff.mp (rfl : rtypeWord f7 rs2 rs1 f3 rd 0b0111011#7 = _)
    exact owner_op32 h₇.symm h₃.symm h₀.symm ho
  have hopImm {f7 : BitVec 7} {rs2 rs1 rd : Regidx} {f3 : BitVec 3} {o : Owner}
      (ho : opImmOwner f7 rs2 f3 = o) : owner (rtypeWord f7 rs2 rs1 f3 rd 0b0010011#7) = o := by
    obtain ⟨h₇, h₅, -, h₃, -, h₀⟩ :=
      rtypeWord_eq_iff.mp (rfl : rtypeWord f7 rs2 rs1 f3 rd 0b0010011#7 = _)
    exact owner_opImm h₇.symm h₅.symm h₃.symm h₀.symm ho
  have hmul : Owner.MUL ∈ [Owner.MUL, .ZBA, .ZBB] := by decide
  have hzba : Owner.ZBA ∈ [Owner.MUL, .ZBA, .ZBB] := by decide
  have hzbb : Owner.ZBB ∈ [Owner.MUL, .ZBA, .ZBB] := by decide
  cases i with
  | C_LBU => exact hbase (clause_eq_some.mpr ⟨by simp [hbyte], rfl⟩) trivial
  | C_LHU | C_LH => exact hbase (clause_eq_some.mpr ⟨by simp [hhalf], rfl⟩) trivial
  | C_SB => exact hbase (clause_eq_some.mpr ⟨by simp [hbyte.le], rfl⟩) trivial
  | C_SH => exact hbase (clause_eq_some.mpr ⟨by simp [hhalf.le], rfl⟩) trivial
  | C_ZEXT_B | C_NOT => exact hbase rfl trivial
  | C_SEXT_B | C_SEXT_H =>
      exact exists_decodeLegal (clause_eq_some.mpr ⟨h, rfl⟩) trivial (by decide) hzbb
        (Or.inl (hopImm rfl))
  | C_ZEXT_H rsdc =>
      have hen : extensionEnabled s .Zbb = true := h
      rcases Platform.xlen_eq with hx | hx
      · have henc : Ast.encode s (ZcbInst.C_ZEXT_H rsdc).expansion = some (rtypeWord 0b0000100#7
            0b00000#5 (creg2regIdx rsdc) 0b100#3 (creg2regIdx rsdc) 0b0110011#7) := by
          unfold ZcbInst.expansion Ast.encode ZbbInst.encode firstClause clause
          simp [hen, hx]
        exact exists_decodeLegal henc trivial (by decide) hzbb (Or.inr ⟨rfl, hop rfl⟩)
      · have henc : Ast.encode s (ZcbInst.C_ZEXT_H rsdc).expansion = some (rtypeWord 0b0000100#7
            0b00000#5 (creg2regIdx rsdc) 0b100#3 (creg2regIdx rsdc) 0b0111011#7) := by
          unfold ZcbInst.expansion Ast.encode ZbbInst.encode firstClause clause
          simp [hen, hx]
        exact exists_decodeLegal henc trivial (by decide) hzbb (Or.inr ⟨rfl, hop32 rfl⟩)
  | C_ZEXT_W =>
      exact exists_decodeLegal (clause_eq_some.mpr ⟨by simp [h.1, h.2], rfl⟩) trivial (by decide)
        hzba (Or.inl (hop32 rfl))
  | C_MUL rsdc rs2c =>
      exact exists_decodeLegal (if_pos h) trivial (by decide) hmul (Or.inl (hop rfl))

/-- **The expansion of a decoded instruction has an encoding, from which it is decoded.** -/
theorem exists_encode_of_decode {s : State} {h : BitVec 16} {i e : Ast}
    (hdec : decodeLegalCompressed s h = some i) (he : i.expansion = some e) :
    ∃ w, e.encode s = some w ∧ decodeLegal s w = some e := by
  unfold decodeLegalCompressed at hdec
  revert he
  refine firstClause_some (P := fun i : Ast => i.expansion = some e →
    ∃ w, e.encode s = some w ∧ decodeLegal s w = some e) ?_ hdec
  simp only [List.mem_cons, forall_eq_or_imp, Option.map_eq_some_iff, List.not_mem_nil,
    false_imp_iff, implies_true, and_true]
  refine ⟨?_, ?_, ?_, ?_⟩
  · rintro _ ⟨i, hi, rfl⟩ he
    cases he
    obtain ⟨w, hw, hdec⟩ := ZcaInst.exists_encode (ZcaInst.guard_of_decode hi)
    exact ⟨w, hw, decodeLegal_base hw hdec⟩
  · rintro _ ⟨i, -, rfl⟩ he
    cases he
  · rintro _ ⟨i, -, rfl⟩ he
    cases he
  · rintro _ ⟨i, hi, rfl⟩ he
    cases he
    exact ZcbInst.exists_encode (ZcbInst.guard_of_decode hi)

end SailRiscv
