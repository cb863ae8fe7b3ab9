/-
# Decoding inverts encoding for the compressed instructions

For each family: what its clauses decode from a half word encodes to that half word, and what
encodes to a half word is decoded from it.  No half word has a decoding in two families.
-/
import SailRiscv.RoundTripInsts
import SailRiscv.Insts.EncodeCompressed

namespace SailRiscv

open Bits Platform

/-! ## Fields of a half word -/

section Fields

variable {h : BitVec 16} {funct3 : BitVec 3} {op : BitVec 2}

/-- A field is a concatenation when its two parts are. -/
theorem bits_eq_append {k m n i : ℕ} {x : BitVec m} {y : BitVec n} {v : BitVec k} :
    bits v i (m + n) = x ++ y ↔ bits v (i + n) m = x ∧ bits v i n = y := by
  rw [eq_comm, append_eq_bits, eq_comm, eq_comm (a := y)]

theorem isC_iff : isC h funct3 op = true ↔ bits h 13 3 = funct3 ∧ bits h 0 2 = op := by
  unfold isC
  rw [Bool.and_eq_true, beq_iff_eq, beq_iff_eq]

@[simp] theorem regWord_eq_iff {bit : BitVec 1} {rd rs2 : Regidx} :
    regWord funct3 bit rd rs2 op = h ↔
      bits h 13 3 = funct3 ∧ bits h 12 1 = bit ∧ rdcOf h = rd ∧ rs2cOf h = rs2
        ∧ bits h 0 2 = op := by
  have hh : h = bits h 0 (14 + 2) := (bits_self h).symm
  unfold regWord rdcOf rs2cOf
  rw [eq_comm]
  conv_lhs => rw [hh]
  rw [bits_eq_append (m := 14) (n := 2), bits_eq_append (m := 9) (n := 5),
    bits_eq_append (m := 4) (n := 5), bits_eq_append (m := 3) (n := 1)]
  simp only [and_assoc, Nat.zero_add, Nat.reduceAdd]

@[simp] theorem cregWord_eq_iff {high : BitVec 3} {rs1 : Cregidx} {low : BitVec 2} {rs2 : Cregidx} :
    cregWord funct3 high rs1 low rs2 op = h ↔
      bits h 13 3 = funct3 ∧ bits h 10 3 = high ∧ creg1Of h = rs1 ∧ bits h 5 2 = low
        ∧ creg2Of h = rs2 ∧ bits h 0 2 = op := by
  have hh : h = bits h 0 (14 + 2) := (bits_self h).symm
  unfold cregWord creg1Of creg2Of
  rw [eq_comm]
  conv_lhs => rw [hh]
  rw [bits_eq_append (m := 14) (n := 2), bits_eq_append (m := 11) (n := 3),
    bits_eq_append (m := 9) (n := 2), bits_eq_append (m := 6) (n := 3),
    bits_eq_append (m := 3) (n := 3)]
  simp only [and_assoc, Nat.zero_add, Nat.reduceAdd]

/-- An immediate is determined by its parts in the half word. -/
theorem imm6Of_eq_iff {imm : BitVec 6} :
    imm6Of h = imm ↔ bits h 12 1 = bits imm 5 1 ∧ bits h 2 5 = bits imm 0 5 := by
  have himm : imm = bits imm 0 (1 + 5) := (bits_self imm).symm
  unfold imm6Of
  conv_lhs => rw [himm]
  rw [append_eq_bits (m := 1) (n := 5), Nat.zero_add]

theorem wordOffset_eq_iff {ui : BitVec 5} : wordOffset h = ui ↔
    bits h 5 1 = bits ui 4 1 ∧ bits h 10 3 = bits ui 1 3 ∧ bits h 6 1 = bits ui 0 1 := by
  have hui : ui = bits ui 0 (4 + 1) := (bits_self ui).symm
  unfold wordOffset
  conv_lhs => rw [hui]
  rw [append_eq_bits (m := 4) (n := 1), append_eq_bits (m := 1) (n := 3)]
  simp only [and_assoc, Nat.zero_add, Nat.reduceAdd]

theorem doubleOffset_eq_iff {ui : BitVec 5} : doubleOffset h = ui ↔
    bits h 5 2 = bits ui 3 2 ∧ bits h 10 3 = bits ui 0 3 := by
  have hui : ui = bits ui 0 (2 + 3) := (bits_self ui).symm
  unfold doubleOffset
  conv_lhs => rw [hui]
  rw [append_eq_bits (m := 2) (n := 3), Nat.zero_add]

theorem wordLoadSp_eq_iff {ui : BitVec 6} : wordLoadSp h = ui ↔
    bits h 2 2 = bits ui 4 2 ∧ bits h 12 1 = bits ui 3 1 ∧ bits h 4 3 = bits ui 0 3 := by
  have hui : ui = bits ui 0 (3 + 3) := (bits_self ui).symm
  unfold wordLoadSp
  conv_lhs => rw [hui]
  rw [append_eq_bits (m := 3) (n := 3), append_eq_bits (m := 2) (n := 1)]
  simp only [and_assoc, Nat.zero_add, Nat.reduceAdd]

theorem doubleLoadSp_eq_iff {ui : BitVec 6} : doubleLoadSp h = ui ↔
    bits h 2 3 = bits ui 3 3 ∧ bits h 12 1 = bits ui 2 1 ∧ bits h 5 2 = bits ui 0 2 := by
  have hui : ui = bits ui 0 (4 + 2) := (bits_self ui).symm
  unfold doubleLoadSp
  conv_lhs => rw [hui]
  rw [append_eq_bits (m := 4) (n := 2), append_eq_bits (m := 3) (n := 1)]
  simp only [and_assoc, Nat.zero_add, Nat.reduceAdd]

theorem wordStoreSp_eq_iff {ui : BitVec 6} : wordStoreSp h = ui ↔
    bits h 7 2 = bits ui 4 2 ∧ bits h 9 4 = bits ui 0 4 := by
  have hui : ui = bits ui 0 (2 + 4) := (bits_self ui).symm
  unfold wordStoreSp
  conv_lhs => rw [hui]
  rw [append_eq_bits (m := 2) (n := 4), Nat.zero_add]

theorem doubleStoreSp_eq_iff {ui : BitVec 6} : doubleStoreSp h = ui ↔
    bits h 7 3 = bits ui 3 3 ∧ bits h 10 3 = bits ui 0 3 := by
  have hui : ui = bits ui 0 (3 + 3) := (bits_self ui).symm
  unfold doubleStoreSp
  conv_lhs => rw [hui]
  rw [append_eq_bits (m := 3) (n := 3), Nat.zero_add]

theorem jumpOffset_eq_iff {imm : BitVec 11} : jumpOffset h = imm ↔
    bits h 12 1 = bits imm 10 1 ∧ bits h 8 1 = bits imm 9 1 ∧ bits h 9 2 = bits imm 7 2
      ∧ bits h 6 1 = bits imm 6 1 ∧ bits h 7 1 = bits imm 5 1 ∧ bits h 2 1 = bits imm 4 1
      ∧ bits h 11 1 = bits imm 3 1 ∧ bits h 3 3 = bits imm 0 3 := by
  have himm : imm = bits imm 0 (8 + 3) := (bits_self imm).symm
  unfold jumpOffset
  conv_lhs => rw [himm]
  rw [append_eq_bits (m := 8) (n := 3), append_eq_bits (m := 7) (n := 1),
    append_eq_bits (m := 6) (n := 1), append_eq_bits (m := 5) (n := 1),
    append_eq_bits (m := 4) (n := 1), append_eq_bits (m := 2) (n := 2),
    append_eq_bits (m := 1) (n := 1)]
  simp only [and_assoc, Nat.zero_add, Nat.reduceAdd]

theorem branchOffset_eq_iff {imm : BitVec 8} : branchOffset h = imm ↔
    bits h 12 1 = bits imm 7 1 ∧ bits h 5 2 = bits imm 5 2 ∧ bits h 2 1 = bits imm 4 1
      ∧ bits h 10 2 = bits imm 2 2 ∧ bits h 3 2 = bits imm 0 2 := by
  have himm : imm = bits imm 0 (6 + 2) := (bits_self imm).symm
  unfold branchOffset
  conv_lhs => rw [himm]
  rw [append_eq_bits (m := 6) (n := 2), append_eq_bits (m := 4) (n := 2),
    append_eq_bits (m := 3) (n := 1), append_eq_bits (m := 1) (n := 2)]
  simp only [and_assoc, Nat.zero_add, Nat.reduceAdd]

/-! ## Half words by their shapes -/

@[simp] theorem immWord_eq_iff {imm : BitVec 6} {rd : Regidx} : immWord funct3 imm rd op = h ↔
    bits h 13 3 = funct3 ∧ imm6Of h = imm ∧ rdcOf h = rd ∧ bits h 0 2 = op := by
  unfold immWord
  rw [regWord_eq_iff, imm6Of_eq_iff]
  unfold rs2cOf
  tauto

@[simp] theorem cimmWord_eq_iff {funct2 : BitVec 2} {imm : BitVec 6} {rsd : Cregidx} :
    cimmWord funct2 imm rsd = h ↔ bits h 13 3 = 0b100#3 ∧ imm6Of h = imm ∧ bits h 10 2 = funct2
      ∧ creg1Of h = rsd ∧ bits h 0 2 = 0b01#2 := by
  have hlow : bits imm 0 5 = bits imm 3 2 ++ bits imm 0 3 :=
    (bits_eq_append (m := 2) (n := 3)).mpr ⟨rfl, rfl⟩
  unfold cimmWord
  rw [cregWord_eq_iff, bits_eq_append (m := 1) (n := 2), imm6Of_eq_iff, hlow,
    bits_eq_append (i := 2) (m := 2) (n := 3)]
  unfold creg2Of
  tauto

@[simp] theorem arithWord_eq_iff {bit : BitVec 1} {rsd : Cregidx} {funct2 : BitVec 2} {rs2 : Cregidx} :
    arithWord bit rsd funct2 rs2 = h ↔ bits h 13 3 = 0b100#3 ∧ bits h 12 1 = bit
      ∧ bits h 10 2 = 0b11#2 ∧ creg1Of h = rsd ∧ bits h 5 2 = funct2 ∧ creg2Of h = rs2
      ∧ bits h 0 2 = 0b01#2 := by
  unfold arithWord
  rw [cregWord_eq_iff, bits_eq_append (m := 1) (n := 2), and_assoc]

@[simp] theorem wordAccess_eq_iff {ui : BitVec 5} {rs1 rs2 : Cregidx} :
    wordAccess funct3 ui rs1 rs2 = h ↔ bits h 13 3 = funct3 ∧ wordOffset h = ui
      ∧ creg1Of h = rs1 ∧ creg2Of h = rs2 ∧ bits h 0 2 = 0b00#2 := by
  unfold wordAccess
  rw [cregWord_eq_iff, bits_eq_append (m := 1) (n := 1), wordOffset_eq_iff]
  tauto

@[simp] theorem doubleAccess_eq_iff {ui : BitVec 5} {rs1 rs2 : Cregidx} :
    doubleAccess funct3 ui rs1 rs2 = h ↔ bits h 13 3 = funct3 ∧ doubleOffset h = ui
      ∧ creg1Of h = rs1 ∧ creg2Of h = rs2 ∧ bits h 0 2 = 0b00#2 := by
  unfold doubleAccess
  rw [cregWord_eq_iff, doubleOffset_eq_iff]
  tauto

@[simp] theorem byteAccess_eq_iff {high : BitVec 3} {uimm : BitVec 2} {rs1 rs2 : Cregidx} :
    byteAccess high uimm rs1 rs2 = h ↔ bits h 13 3 = 0b100#3 ∧ bits h 10 3 = high
      ∧ bits h 5 1 ++ bits h 6 1 = uimm ∧ creg1Of h = rs1 ∧ creg2Of h = rs2
      ∧ bits h 0 2 = 0b00#2 := by
  have huimm : uimm = bits uimm 0 (1 + 1) := (bits_self uimm).symm
  unfold byteAccess
  conv_rhs => rw [huimm]
  rw [cregWord_eq_iff, bits_eq_append (m := 1) (n := 1), append_eq_bits (m := 1) (n := 1)]
  tauto

@[simp] theorem halfAccess_eq_iff {high : BitVec 3} {bit : BitVec 1} {uimm : BitVec 2}
    {rs1 rs2 : Cregidx} : halfAccess high bit uimm rs1 rs2 = h ↔ bits h 13 3 = 0b100#3
      ∧ bits h 10 3 = high ∧ bits h 6 1 = bit ∧ bits h 5 1 = bits uimm 1 1 ∧ creg1Of h = rs1
      ∧ creg2Of h = rs2 ∧ bits h 0 2 = 0b00#2 := by
  unfold halfAccess
  rw [cregWord_eq_iff, bits_eq_append (m := 1) (n := 1)]
  tauto

@[simp] theorem wordFromStack_eq_iff {ui : BitVec 6} {rd : Regidx} :
    wordFromStack funct3 ui rd = h ↔ bits h 13 3 = funct3 ∧ wordLoadSp h = ui ∧ rdcOf h = rd
      ∧ bits h 0 2 = 0b10#2 := by
  unfold wordFromStack
  rw [regWord_eq_iff, wordLoadSp_eq_iff]
  unfold rs2cOf
  rw [bits_eq_append (m := 3) (n := 2)]
  tauto

@[simp] theorem doubleFromStack_eq_iff {ui : BitVec 6} {rd : Regidx} :
    doubleFromStack funct3 ui rd = h ↔ bits h 13 3 = funct3 ∧ doubleLoadSp h = ui ∧ rdcOf h = rd
      ∧ bits h 0 2 = 0b10#2 := by
  unfold doubleFromStack
  rw [regWord_eq_iff, doubleLoadSp_eq_iff]
  unfold rs2cOf
  rw [bits_eq_append (m := 2) (n := 3)]
  tauto

@[simp] theorem wordToStack_eq_iff {ui : BitVec 6} {rs2 : Regidx} :
    wordToStack funct3 ui rs2 = h ↔ bits h 13 3 = funct3 ∧ wordStoreSp h = ui ∧ rs2cOf h = rs2
      ∧ bits h 0 2 = 0b10#2 := by
  have hh : h = bits h 0 (14 + 2) := (bits_self h).symm
  unfold wordToStack rs2cOf
  rw [eq_comm]
  conv_lhs => rw [hh]
  rw [bits_eq_append (m := 14) (n := 2), bits_eq_append (m := 9) (n := 5),
    bits_eq_append (m := 7) (n := 2), bits_eq_append (m := 3) (n := 4), wordStoreSp_eq_iff]
  tauto

@[simp] theorem doubleToStack_eq_iff {ui : BitVec 6} {rs2 : Regidx} :
    doubleToStack funct3 ui rs2 = h ↔ bits h 13 3 = funct3 ∧ doubleStoreSp h = ui
      ∧ rs2cOf h = rs2 ∧ bits h 0 2 = 0b10#2 := by
  have hh : h = bits h 0 (14 + 2) := (bits_self h).symm
  unfold doubleToStack rs2cOf
  rw [eq_comm]
  conv_lhs => rw [hh]
  rw [bits_eq_append (m := 14) (n := 2), bits_eq_append (m := 9) (n := 5),
    bits_eq_append (m := 6) (n := 3), bits_eq_append (m := 3) (n := 3), doubleStoreSp_eq_iff]
  tauto

@[simp] theorem jumpWord_eq_iff {imm : BitVec 11} : jumpWord funct3 imm = h ↔
    bits h 13 3 = funct3 ∧ jumpOffset h = imm ∧ bits h 0 2 = 0b01#2 := by
  have hh : h = bits h 0 (14 + 2) := (bits_self h).symm
  unfold jumpWord
  rw [eq_comm]
  conv_lhs => rw [hh]
  rw [bits_eq_append (m := 14) (n := 2), bits_eq_append (m := 13) (n := 1),
    bits_eq_append (m := 10) (n := 3), bits_eq_append (m := 9) (n := 1),
    bits_eq_append (m := 8) (n := 1), bits_eq_append (m := 7) (n := 1),
    bits_eq_append (m := 5) (n := 2), bits_eq_append (m := 4) (n := 1),
    bits_eq_append (m := 3) (n := 1), jumpOffset_eq_iff]
  simp only [Nat.zero_add, Nat.reduceAdd]
  tauto

@[simp] theorem branchWord_eq_iff {imm : BitVec 8} {rs : Cregidx} : branchWord funct3 imm rs = h ↔
    bits h 13 3 = funct3 ∧ branchOffset h = imm ∧ creg1Of h = rs ∧ bits h 0 2 = 0b01#2 := by
  have hh : h = bits h 0 (14 + 2) := (bits_self h).symm
  unfold branchWord creg1Of
  rw [eq_comm]
  conv_lhs => rw [hh]
  rw [bits_eq_append (m := 14) (n := 2), bits_eq_append (m := 13) (n := 1),
    bits_eq_append (m := 11) (n := 2), bits_eq_append (m := 9) (n := 2),
    bits_eq_append (m := 6) (n := 3), bits_eq_append (m := 4) (n := 2),
    bits_eq_append (m := 3) (n := 1), branchOffset_eq_iff]
  simp only [Nat.zero_add, Nat.reduceAdd]
  tauto

@[simp] theorem addi4spnWord_eq_iff {nzimm : BitVec 8} {rd : Cregidx} : addi4spnWord nzimm rd = h ↔
    bits h 13 3 = 0b000#3 ∧ bits h 7 4 ++ bits h 11 2 ++ bits h 5 1 ++ bits h 6 1 = nzimm
      ∧ creg2Of h = rd ∧ bits h 0 2 = 0b00#2 := by
  have hh : h = bits h 0 (14 + 2) := (bits_self h).symm
  have hnz : nzimm = bits nzimm 0 (7 + 1) := (bits_self nzimm).symm
  unfold addi4spnWord creg2Of
  rw [eq_comm]
  conv_lhs => rw [hh]
  conv_rhs => rw [hnz]
  rw [bits_eq_append (m := 14) (n := 2), bits_eq_append (m := 11) (n := 3),
    bits_eq_append (m := 10) (n := 1), bits_eq_append (m := 9) (n := 1),
    bits_eq_append (m := 5) (n := 4), bits_eq_append (m := 3) (n := 2),
    append_eq_bits (m := 7) (n := 1), append_eq_bits (m := 6) (n := 1),
    append_eq_bits (m := 4) (n := 2)]
  simp only [Nat.zero_add, Nat.reduceAdd]
  tauto

@[simp] theorem addi16spWord_eq_iff {nzi : BitVec 6} : addi16spWord nzi = h ↔
    bits h 13 3 = 0b011#3 ∧ rdcOf h = 0b00010#5
      ∧ bits h 12 1 ++ bits h 3 2 ++ bits h 5 1 ++ bits h 2 1 ++ bits h 6 1 = nzi
      ∧ bits h 0 2 = 0b01#2 := by
  have hh : h = bits h 0 (14 + 2) := (bits_self h).symm
  have hnz : nzi = bits nzi 0 (5 + 1) := (bits_self nzi).symm
  unfold addi16spWord rdcOf
  rw [eq_comm]
  conv_lhs => rw [hh]
  conv_rhs => rw [hnz]
  rw [bits_eq_append (m := 14) (n := 2), bits_eq_append (m := 13) (n := 1),
    bits_eq_append (m := 11) (n := 2), bits_eq_append (m := 10) (n := 1),
    bits_eq_append (m := 9) (n := 1), bits_eq_append (m := 4) (n := 5),
    bits_eq_append (m := 3) (n := 1), append_eq_bits (m := 5) (n := 1),
    append_eq_bits (m := 4) (n := 1), append_eq_bits (m := 3) (n := 1),
    append_eq_bits (m := 1) (n := 2)]
  simp only [Nat.zero_add, Nat.reduceAdd]
  tauto

/-! ## The fields of fixed half words -/

/-- The sign bit of an immediate in its half word. -/
@[simp] theorem sign_imm6Of : bits (imm6Of h) 5 1 = bits h 12 1 := (imm6Of_eq_iff.mp rfl).1.symm

@[simp] theorem bits_append_upper (x y : BitVec 1) : bits (x ++ y : BitVec 2) 1 1 = x :=
  BitVec.extractLsb'_append_eq_left

@[simp] theorem bits_append_lower (x y : BitVec 1) : bits (x ++ y : BitVec 2) 0 1 = y :=
  BitVec.extractLsb'_append_eq_right

theorem bits_halves {uimm : BitVec 2} : bits uimm 1 1 ++ bits uimm 0 1 = uimm := by
  revert uimm
  decide

@[simp] theorem firstClause_nil {α : Type} : firstClause ([] : List (Option α)) = none := rfl

theorem not_beq_zero {b : BitVec 1} : (!b == 0#1) = true ↔ b = 1#1 := by
  revert b
  decide

/-- The parts of an upper field of ones. -/
theorem bits_of_ones (h₁₀ : bits h 10 3 = 0b111#3) :
    bits h 12 1 = 0b1#1 ∧ bits h 10 2 = 0b11#2 :=
  (bits_eq_append (m := 1) (n := 2)).mp h₁₀

/-- An immediate of zero. -/
theorem imm6Of_eq_zero_iff :
    imm6Of h = 0b000000#6 ↔ bits h 12 1 = 0b0#1 ∧ rs2cOf h = 0b00000#5 :=
  imm6Of_eq_iff

theorem imm6Of_eq_zero (h₁₂ : bits h 12 1 = 0b0#1) (h₂ : rs2cOf h = 0b00000#5) :
    imm6Of h = 0b000000#6 :=
  imm6Of_eq_zero_iff.mpr ⟨h₁₂, h₂⟩

/-- The half word of `C_NOP` by its fields. -/
theorem beq_nop : (h == 0b0000000000000001#16)
    = (isC h 0b000#3 0b01#2 && rdcOf h == 0b00000#5 && imm6Of h == 0b000000#6) := by
  rw [Bool.eq_iff_iff, beq_iff_eq, eq_comm]
  change immWord 0b000#3 0b000000#6 0b00000#5 0b01#2 = h ↔ _
  rw [immWord_eq_iff, Bool.and_eq_true, Bool.and_eq_true, isC_iff, beq_iff_eq, beq_iff_eq]
  tauto

/-- The half word of `C_EBREAK` by its fields. -/
theorem beq_ebreak : (h == 0b1001000000000010#16)
    = (isC h 0b100#3 0b10#2 && bits h 12 1 == 0b1#1 && rdcOf h == 0b00000#5
      && rs2cOf h == 0b00000#5) := by
  rw [Bool.eq_iff_iff, beq_iff_eq, eq_comm]
  change regWord 0b100#3 0b1#1 0b00000#5 0b00000#5 0b10#2 = h ↔ _
  simp only [regWord_eq_iff, Bool.and_eq_true, isC_iff, beq_iff_eq]
  tauto

end Fields

variable [Platform]

/-! ## What is decoded encodes to its half word -/

theorem ZcaInst.encode_of_decode {s : State} {h : BitVec 16} {i : ZcaInst}
    (hdec : ZcaInst.decode s h = some i) : i.encode s = some h := by
  unfold ZcaInst.decode at hdec
  rw [beq_ebreak] at hdec
  refine firstClause_some (P := fun i => ZcaInst.encode s i = some h) ?_ hdec
  clear hdec
  simp only [List.mem_cons, forall_eq_or_imp, clause_eq_some, List.not_mem_nil, false_imp_iff,
    implies_true, and_true, and_imp, Bool.and_eq_true, isC_iff, beq_iff_eq]
  refine ⟨?_, ?_⟩
  · rintro _ rfl hen rfl
    exact clause_eq_some.mpr ⟨hen, by decide⟩
  and_intros
  all_goals
    intros
    subst_vars
    exact clause_eq_some.mpr ⟨by simp [*], by simp [*]⟩

theorem CHintInst.encode_of_decode {h : BitVec 16} {i : CHintInst}
    (hdec : CHintInst.decode h = some i) : i.encode = some h := by
  unfold CHintInst.decode at hdec
  refine firstClause_some (P := fun i => CHintInst.encode i = some h) ?_ hdec
  clear hdec
  simp only [List.mem_cons, forall_eq_or_imp, clause_eq_some, List.not_mem_nil, false_imp_iff,
    implies_true, and_true, and_imp, Bool.and_eq_true, isC_iff, beq_iff_eq, not_beq_zero]
  and_intros
  all_goals
    intros
    subst_vars
  · exact clause_eq_some.mpr ⟨by simp [*], by simp [*]⟩
  · exact clause_eq_some.mpr ⟨by simp [*], by simp [*]⟩
  · exact congrArg some (by simp [*])
  · exact clause_eq_some.mpr ⟨by simp [*], by simp [*]⟩
  · exact clause_eq_some.mpr ⟨by simp [*], by simp [*]⟩
  · exact clause_eq_some.mpr ⟨by simp [*], by simp [*]⟩
  · exact clause_eq_some.mpr ⟨by simp [*], by simp [*]⟩
  · exact congrArg some (by simp [*, imm6Of_eq_zero])
  · exact congrArg some (by simp [*, imm6Of_eq_zero])

theorem ZcfInst.encode_of_decode {s : State} {h : BitVec 16} {i : ZcfInst}
    (hdec : ZcfInst.decode s h = some i) : i.encode s = some h := by
  unfold ZcfInst.decode at hdec
  refine firstClause_some (P := fun i => ZcfInst.encode s i = some h) ?_ hdec
  clear hdec
  simp only [List.mem_cons, forall_eq_or_imp, clause_eq_some, List.not_mem_nil, false_imp_iff,
    implies_true, and_true, and_imp, Bool.and_eq_true, isC_iff]
  and_intros
  all_goals
    intros
    subst_vars
    exact clause_eq_some.mpr ⟨by assumption, by simp [*]⟩

theorem ZcbInst.encode_of_decode {s : State} {h : BitVec 16} {i : ZcbInst}
    (hdec : ZcbInst.decode s h = some i) : i.encode s = some h := by
  unfold ZcbInst.decode at hdec
  refine firstClause_some (P := fun i => ZcbInst.encode s i = some h) ?_ hdec
  clear hdec
  simp only [List.mem_cons, forall_eq_or_imp, clause_eq_some, List.not_mem_nil, false_imp_iff,
    implies_true, and_true, and_imp, Bool.and_eq_true, isC_iff, beq_iff_eq]
  and_intros
  all_goals
    intros
    subst_vars
    exact clause_eq_some.mpr ⟨by simp [*], by simp [*]⟩

/-! ## What encodes to a half word is decoded from it -/

theorem ZcaInst.decode_of_encode {s : State} {h : BitVec 16} {i : ZcaInst}
    (henc : i.encode s = some h) : ZcaInst.decode s h = some i := by
  unfold ZcaInst.decode
  rw [beq_nop, beq_ebreak]
  cases i with
  | C_NOP =>
      obtain ⟨hen, hw⟩ := clause_eq_some.mp henc
      obtain ⟨h₁₃, h₁₂, h₇, h₂, h₀⟩ := regWord_eq_iff.mp hw
      simp [↓firstClause_clause, isC, h₁₃, h₇, imm6Of_eq_zero h₁₂ h₂, h₀, hen]
  | C_SRLI nzui rsd | C_SRAI nzui rsd =>
      obtain ⟨hen, hw⟩ := clause_eq_some.mp henc
      obtain ⟨h₁₃, rfl, h₁₀, rfl, h₀⟩ := cimmWord_eq_iff.mp hw
      simp only [sign_imm6Of, Bool.and_eq_true] at hen
      simp [↓firstClause_clause, isC, h₁₃, h₁₀, h₀, hen]
  | C_SLLI nzui rsd =>
      obtain ⟨hen, hw⟩ := clause_eq_some.mp henc
      obtain ⟨h₁₃, rfl, rfl, h₀⟩ := immWord_eq_iff.mp hw
      simp only [sign_imm6Of, Bool.and_eq_true] at hen
      simp [↓firstClause_clause, isC, h₁₃, h₀, hen]
  | _ =>
      obtain ⟨hen, hw⟩ := clause_eq_some.mp henc
      simp only [immWord_eq_iff, cimmWord_eq_iff, arithWord_eq_iff, wordAccess_eq_iff,
        doubleAccess_eq_iff, wordFromStack_eq_iff, doubleFromStack_eq_iff, wordToStack_eq_iff,
        doubleToStack_eq_iff, jumpWord_eq_iff, branchWord_eq_iff, addi4spnWord_eq_iff,
        addi16spWord_eq_iff, regWord_eq_iff, Bool.and_eq_true, bne_iff_ne, decide_eq_true_eq,
        zreg, sp] at hen hw
      simp [↓firstClause_clause, isC, hw, hen, zreg, sp]

theorem CHintInst.decode_of_encode {s : State} {h : BitVec 16} {i : CHintInst}
    (henc : i.encode = some h) : ZcaInst.decode s h = none ∧ CHintInst.decode h = some i := by
  unfold ZcaInst.decode CHintInst.decode
  rw [beq_nop, beq_ebreak]
  cases i with
  | C_ADDI_HINT rsd =>
      obtain ⟨hen, hw⟩ := clause_eq_some.mp henc
      obtain ⟨h₁₃, h₁₂, rfl, h₂, h₀⟩ := regWord_eq_iff.mp hw
      have hne : ¬ rdcOf h = 0b00000#5 := bne_iff_ne.mp hen
      simp [↓firstClause_clause, isC, h₁₃, h₁₂, h₂, imm6Of_eq_zero h₁₂ h₂, h₀, hne, zreg]
  | C_MV_HINT rs2 | C_ADD_HINT rs2 =>
      obtain ⟨hen, hw⟩ := clause_eq_some.mp henc
      obtain ⟨h₁₃, h₁₂, h₇, rfl, h₀⟩ := regWord_eq_iff.mp hw
      have hne : ¬ rs2cOf h = 0b00000#5 := bne_iff_ne.mp hen
      simp [↓firstClause_clause, isC, h₁₃, h₁₂, h₇, h₀, hne, zreg]
  | C_NOP_HINT imm | C_LUI_HINT imm =>
      obtain ⟨hen, hw⟩ := clause_eq_some.mp henc
      obtain ⟨h₁₃, rfl, h₇, h₀⟩ := immWord_eq_iff.mp hw
      have hne : ¬ imm6Of h = 0b000000#6 := bne_iff_ne.mp hen
      simp [↓firstClause_clause, isC, h₁₃, h₇, h₀, hne, zreg]
  | C_LI_HINT imm =>
      obtain ⟨h₁₃, rfl, h₇, h₀⟩ := immWord_eq_iff.mp (Option.some.inj henc)
      simp [↓firstClause_clause, isC, h₁₃, h₇, h₀, zreg]
  | C_SLLI_HINT nzui rsd =>
      obtain ⟨hen, hw⟩ := clause_eq_some.mp henc
      obtain ⟨h₁₃, rfl, rfl, h₀⟩ := immWord_eq_iff.mp hw
      simp only [sign_imm6Of] at hen
      obtain ⟨hzero, hlen⟩ := Bool.and_eq_true_iff.mp hen
      have hshort : ¬ xlen = 64 → bits h 12 1 = 0b0#1 := by
        simpa [or_iff_not_imp_left] using hlen
      rcases Bool.or_eq_true_iff.mp hzero with hz | hz
      · simpa [↓firstClause_clause, isC, h₁₃, h₀, beq_iff_eq.mp hz] using hshort
      · simpa [↓firstClause_clause, isC, h₁₃, h₀, beq_iff_eq.mp hz] using hshort
  | C_SRLI_HINT rsd | C_SRAI_HINT rsd =>
      obtain ⟨h₁₃, h₂, h₁₀, rfl, h₀⟩ := cimmWord_eq_iff.mp (Option.some.inj henc)
      simp [↓firstClause_clause, isC, h₁₃, h₁₀, h₂, h₀, imm6Of_eq_zero_iff.mp h₂]

/-- The compressed loads and stores of single precision are those of RV32. -/
theorem xlen_of_zcf {s : State} (hen : extensionEnabled s .Zcf = true) : xlen = 32 :=
  of_decide_eq_true (Bool.and_eq_true_iff.mp hen).2

theorem ZcfInst.decode_of_encode {s : State} {h : BitVec 16} {i : ZcfInst}
    (henc : i.encode s = some h) :
    ZcaInst.decode s h = none ∧ CHintInst.decode h = none ∧ ZcfInst.decode s h = some i := by
  unfold ZcaInst.decode CHintInst.decode ZcfInst.decode
  rw [beq_nop, beq_ebreak]
  cases i with
  | C_FLWSP ui rd | C_FSWSP ui rs2 | C_FLW ui rs1 rd | C_FSW ui rs1 rs2 =>
      obtain ⟨hen, hw⟩ := clause_eq_some.mp henc
      simp only [wordAccess_eq_iff, wordFromStack_eq_iff, wordToStack_eq_iff] at hw
      simp [↓firstClause_clause, isC, hw, hen, xlen_of_zcf hen]
  | C_FLDSP ui rd | C_FSDSP ui rs2 | C_FLD ui rs1 rd | C_FSD ui rs1 rs2 =>
      obtain ⟨hen, hw⟩ := clause_eq_some.mp henc
      simp only [doubleAccess_eq_iff, doubleFromStack_eq_iff, doubleToStack_eq_iff] at hw
      simp [↓firstClause_clause, isC, hw, hen]

theorem ZcbInst.decode_of_encode {s : State} {h : BitVec 16} {i : ZcbInst}
    (henc : i.encode s = some h) :
    ZcaInst.decode s h = none ∧ CHintInst.decode h = none ∧ ZcfInst.decode s h = none
      ∧ ZcbInst.decode s h = some i := by
  unfold ZcaInst.decode CHintInst.decode ZcfInst.decode ZcbInst.decode
  rw [beq_nop, beq_ebreak]
  cases i with
  | C_LBU uimm rdc rs1c | C_SB uimm rs1c rs2c =>
      obtain ⟨hen, hw⟩ := clause_eq_some.mp henc
      obtain ⟨h₁₃, h₁₀, rfl, rfl, rfl, h₀⟩ := byteAccess_eq_iff.mp hw
      simp [↓firstClause_clause, isC, h₁₃, h₁₀, h₀, hen]
  | C_LHU uimm rdc rs1c | C_LH uimm rdc rs1c | C_SH uimm rs1c rs2c =>
      obtain ⟨hen, hw⟩ := clause_eq_some.mp henc
      obtain ⟨heven, hzcb⟩ := Bool.and_eq_true_iff.mp hen
      obtain ⟨h₁₃, h₁₀, h₆, h₅, rfl, rfl, h₀⟩ := halfAccess_eq_iff.mp hw
      have huimm : bits h 5 1 ++ 0b0#1 = uimm := by
        rw [h₅, ← beq_iff_eq.mp heven]
        exact bits_halves
      simp [↓firstClause_clause, isC, h₁₃, h₁₀, h₆, h₀, hzcb, huimm]
  | C_MUL rsdc rs2c =>
      obtain ⟨hen, hw⟩ := clause_eq_some.mp henc
      obtain ⟨h₁₃, h₁₀, rfl, h₅, rfl, h₀⟩ := cregWord_eq_iff.mp hw
      simp [↓firstClause_clause, isC, h₁₃, h₁₀, h₅, h₀, hen, bits_of_ones h₁₀]
  | _ =>
      obtain ⟨hen, hw⟩ := clause_eq_some.mp henc
      obtain ⟨h₁₃, h₁₀, rfl, h₅, h₂, h₀⟩ := cregWord_eq_iff.mp hw
      simp [↓firstClause_clause, isC, h₁₃, h₁₀, h₅, h₂, h₀, hen, bits_of_ones h₁₀]

/-! ## The round trip -/

/-- An instruction is decoded from a half word if and only if it encodes to the half word. -/
theorem decodeLegalCompressed_eq_some_iff {s : State} {h : BitVec 16} {i : Ast} :
    decodeLegalCompressed s h = some i ↔ i.encodeCompressed s = some h := by
  unfold decodeLegalCompressed
  constructor
  · refine firstClause_some (P := fun i => Ast.encodeCompressed s i = some h) ?_
    simp only [List.mem_cons, forall_eq_or_imp, List.not_mem_nil, false_imp_iff, implies_true,
      and_true, Option.map_eq_some_iff]
    refine ⟨?_, ?_, ?_, ?_⟩
    · rintro _ ⟨j, hj, rfl⟩
      exact j.encode_of_decode hj
    · rintro _ ⟨j, hj, rfl⟩
      exact j.encode_of_decode hj
    · rintro _ ⟨j, hj, rfl⟩
      exact j.encode_of_decode hj
    · rintro _ ⟨j, hj, rfl⟩
      exact j.encode_of_decode hj
  · intro henc
    cases i with
    | ZCA j => simp [↓firstClause_map, j.decode_of_encode henc]
    | C_HINT j => simp [↓firstClause_map, j.decode_of_encode (s := s) henc]
    | ZCF j => simp [↓firstClause_map, j.decode_of_encode henc]
    | ZCB j => simp [↓firstClause_map, j.decode_of_encode henc]
    | _ => exact absurd henc (by simp [Ast.encodeCompressed])

end SailRiscv
