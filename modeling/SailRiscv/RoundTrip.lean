/-
# Decoding inverts encoding

For each family of instructions: what its clauses decode from a word encodes to that word, and
what encodes to a word is decoded from it.  `owner` is the family that a word belongs to, read
off its fields; a family decodes only words of its own, so that the clauses of two families
overlap only on the words of both `zext.h` and the packing instructions.
-/
import SailRiscv.Lib.Concat
import SailRiscv.Insts.Encode

namespace SailRiscv

open Bits Platform

/-! ## Fields of a word -/

/-- A field of a field. -/
theorem bits_bits {k : ℕ} (v : BitVec k) (i n j m : ℕ) (h : j + m ≤ n) :
    bits (bits v i n) j m = bits v (i + j) m :=
  extractLsb'_extractLsb' v i n j m h

/-- A concatenation is a field when its parts are the two parts of the field. -/
theorem append_eq_bits {k m n i : ℕ} {x : BitVec m} {y : BitVec n} {v : BitVec k} :
    x ++ y = bits v i (m + n) ↔ x = bits v (i + n) m ∧ y = bits v i n :=
  append_eq_extractLsb'

/-- A whole vector is a field of itself. -/
theorem bits_self {n : ℕ} (v : BitVec n) : bits v 0 n = v := BitVec.extractLsb'_eq_self

/-- A word of the first shape is determined by its fields. -/
theorem rtypeWord_eq_iff {funct7 : BitVec 7} {rs2 rs1 : Regidx} {funct3 : BitVec 3} {rd : Regidx}
    {opcode : BitVec 7} {w : BitVec 32} : rtypeWord funct7 rs2 rs1 funct3 rd opcode = w ↔
      funct7 = bits w 25 7 ∧ rs2 = rs2Of w ∧ rs1 = rs1Of w ∧ funct3 = bits w 12 3 ∧ rd = rdOf w
        ∧ opcode = bits w 0 7 := by
  have hw : w = bits w 0 (25 + 7) := (bits_self w).symm
  unfold rtypeWord rs2Of rs1Of rdOf
  conv_lhs => rw [hw]
  rw [append_eq_bits (m := 25) (n := 7), append_eq_bits (m := 20) (n := 5),
    append_eq_bits (m := 17) (n := 3), append_eq_bits (m := 12) (n := 5),
    append_eq_bits (m := 7) (n := 5)]
  simp only [and_assoc, Nat.zero_add, Nat.reduceAdd]

/-- A word of the second shape is determined by its fields. -/
theorem itypeWord_eq_iff {imm : BitVec 12} {rs1 : Regidx} {funct3 : BitVec 3} {rd : Regidx}
    {opcode : BitVec 7} {w : BitVec 32} : itypeWord imm rs1 funct3 rd opcode = w ↔
      imm = bits w 20 12 ∧ rs1 = rs1Of w ∧ funct3 = bits w 12 3 ∧ rd = rdOf w
        ∧ opcode = bits w 0 7 := by
  have hw : w = bits w 0 (25 + 7) := (bits_self w).symm
  unfold itypeWord rs1Of rdOf
  conv_lhs => rw [hw]
  rw [append_eq_bits (m := 25) (n := 7), append_eq_bits (m := 20) (n := 5),
    append_eq_bits (m := 17) (n := 3), append_eq_bits (m := 12) (n := 5)]
  simp only [and_assoc, Nat.zero_add, Nat.reduceAdd]

/-- A word of the third shape is determined by its fields. -/
theorem shiftWord_eq_iff {funct6 shamt : BitVec 6} {rs1 : Regidx} {funct3 : BitVec 3}
    {rd : Regidx} {opcode : BitVec 7} {w : BitVec 32} :
    shiftWord funct6 shamt rs1 funct3 rd opcode = w ↔
      (funct6 = bits w 26 6 ∧ shamt = bits w 20 6) ∧ rs1 = rs1Of w ∧ funct3 = bits w 12 3
        ∧ rd = rdOf w ∧ opcode = bits w 0 7 := by
  unfold shiftWord
  rw [itypeWord_eq_iff, append_eq_bits (m := 6) (n := 6)]

/-- A word with an upper immediate is determined by its fields. -/
theorem utypeWord_eq_iff {imm : BitVec 20} {rd : Regidx} {opcode : BitVec 7} {w : BitVec 32} :
    imm ++ rd ++ opcode = w ↔ imm = bits w 12 20 ∧ rd = rdOf w ∧ opcode = bits w 0 7 := by
  have hw : w = bits w 0 (25 + 7) := (bits_self w).symm
  unfold rdOf
  conv_lhs => rw [hw]
  rw [append_eq_bits (m := 25) (n := 7), append_eq_bits (m := 20) (n := 5)]
  simp only [and_assoc, Nat.zero_add]

/-- The word of a jump is determined by its fields. -/
theorem jalWord_eq_iff {a : BitVec 1} {b : BitVec 6} {c : BitVec 4} {d : BitVec 1} {e : BitVec 8}
    {rd : Regidx} {opcode : BitVec 7} {w : BitVec 32} :
    a ++ b ++ c ++ d ++ e ++ rd ++ opcode = w ↔
      a = bits w 31 1 ∧ b = bits w 25 6 ∧ c = bits w 21 4 ∧ d = bits w 20 1 ∧ e = bits w 12 8
        ∧ rd = rdOf w ∧ opcode = bits w 0 7 := by
  have hw : w = bits w 0 (25 + 7) := (bits_self w).symm
  unfold rdOf
  conv_lhs => rw [hw]
  rw [append_eq_bits (m := 25) (n := 7), append_eq_bits (m := 20) (n := 5),
    append_eq_bits (m := 12) (n := 8), append_eq_bits (m := 11) (n := 1),
    append_eq_bits (m := 7) (n := 4), append_eq_bits (m := 1) (n := 6)]
  simp only [and_assoc, Nat.zero_add, Nat.reduceAdd]

/-- The offset of a jump is determined by its parts. -/
theorem jalImm_eq_iff {a : BitVec 1} {b : BitVec 8} {c : BitVec 1} {d : BitVec 6} {e : BitVec 4}
    {f : BitVec 1} {imm : BitVec 21} : a ++ b ++ c ++ d ++ e ++ f = imm ↔
      a = bits imm 20 1 ∧ b = bits imm 12 8 ∧ c = bits imm 11 1 ∧ d = bits imm 5 6
        ∧ e = bits imm 1 4 ∧ f = bits imm 0 1 := by
  have himm : imm = bits imm 0 (20 + 1) := (bits_self imm).symm
  conv_lhs => rw [himm]
  rw [append_eq_bits (m := 20) (n := 1), append_eq_bits (m := 16) (n := 4),
    append_eq_bits (m := 10) (n := 6), append_eq_bits (m := 9) (n := 1),
    append_eq_bits (m := 1) (n := 8)]
  simp only [and_assoc, Nat.zero_add, Nat.reduceAdd]

/-- The offset of a branch is determined by its parts. -/
theorem btypeImm_eq_iff {a b : BitVec 1} {c : BitVec 6} {d : BitVec 4} {e : BitVec 1}
    {imm : BitVec 13} : a ++ b ++ c ++ d ++ e = imm ↔
      a = bits imm 12 1 ∧ b = bits imm 11 1 ∧ c = bits imm 5 6 ∧ d = bits imm 1 4
        ∧ e = bits imm 0 1 := by
  have himm : imm = bits imm 0 (12 + 1) := (bits_self imm).symm
  conv_lhs => rw [himm]
  rw [append_eq_bits (m := 12) (n := 1), append_eq_bits (m := 8) (n := 4),
    append_eq_bits (m := 2) (n := 6), append_eq_bits (m := 1) (n := 1)]
  simp only [and_assoc, Nat.zero_add, Nat.reduceAdd]

/-- The offset of a store is determined by its parts. -/
theorem storeImm_eq_iff {a : BitVec 7} {b : BitVec 5} {imm : BitVec 12} :
    a ++ b = imm ↔ a = bits imm 5 7 ∧ b = bits imm 0 5 := by
  have himm : imm = bits imm 0 (7 + 5) := (bits_self imm).symm
  conv_lhs => rw [himm]
  rw [append_eq_bits (m := 7) (n := 5)]

/-- The lowest fields of a word with three registers. -/
theorem low20_eq_iff {w : BitVec 32} {rs1 : BitVec 5} {funct3 : BitVec 3} {rd : BitVec 5}
    {opcode : BitVec 7} : (rs1 ++ funct3 ++ rd ++ opcode : BitVec 20) = bits w 0 20 ↔
      rs1 = rs1Of w ∧ funct3 = bits w 12 3 ∧ rd = rdOf w ∧ opcode = bits w 0 7 := by
  unfold rs1Of rdOf
  rw [append_eq_bits (m := 13) (n := 7), append_eq_bits (m := 8) (n := 5),
    append_eq_bits (m := 5) (n := 3)]
  simp only [and_assoc, Nat.zero_add, Nat.reduceAdd]

/-- The lowest fields of a word with two registers. -/
theorem low15_eq_iff {w : BitVec 32} {funct3 : BitVec 3} {rd : BitVec 5} {opcode : BitVec 7} :
    (funct3 ++ rd ++ opcode : BitVec 15) = bits w 0 15 ↔
      funct3 = bits w 12 3 ∧ rd = rdOf w ∧ opcode = bits w 0 7 := by
  unfold rdOf
  rw [append_eq_bits (m := 8) (n := 7), append_eq_bits (m := 3) (n := 5)]
  simp only [and_assoc, Nat.zero_add, Nat.reduceAdd]

/-! ## Words from their fields -/

section OfBits

variable {w : BitVec 32} {f7 : BitVec 7} {f6 : BitVec 6} {f3 : BitVec 3} {opcode : BitVec 7}

theorem rtype_of_bits (h₇ : bits w 25 7 = f7) (h₃ : bits w 12 3 = f3) (h₀ : bits w 0 7 = opcode) :
    rtypeWord f7 (rs2Of w) (rs1Of w) f3 (rdOf w) opcode = w :=
  rtypeWord_eq_iff.mpr ⟨h₇.symm, rfl, rfl, h₃.symm, rfl, h₀.symm⟩

theorem itype_of_bits (h₃ : bits w 12 3 = f3) (h₀ : bits w 0 7 = opcode) :
    itypeWord (bits w 20 12) (rs1Of w) f3 (rdOf w) opcode = w :=
  itypeWord_eq_iff.mpr ⟨rfl, rfl, h₃.symm, rfl, h₀.symm⟩

theorem shift_of_bits (h₆ : bits w 26 6 = f6) (h₃ : bits w 12 3 = f3)
    (h₀ : bits w 0 7 = opcode) :
    shiftWord f6 (bits w 20 6) (rs1Of w) f3 (rdOf w) opcode = w :=
  shiftWord_eq_iff.mpr ⟨⟨h₆.symm, rfl⟩, rfl, h₃.symm, rfl, h₀.symm⟩

theorem funct12_of_bits {f12 : BitVec 12} (h₁₂ : bits w 20 12 = f12) :
    bits w 25 7 = f12.extractLsb' 5 7 ∧ rs2Of w = f12.extractLsb' 0 5 := by
  subst h₁₂
  exact ⟨(bits_bits w 20 12 5 7 (by decide)).symm, (bits_bits w 20 12 0 5 (by decide)).symm⟩

theorem itype12_of_bits {f12 : BitVec 12} (h₁₂ : bits w 20 12 = f12) (h₃ : bits w 12 3 = f3)
    (h₀ : bits w 0 7 = opcode) : itypeWord f12 (rs1Of w) f3 (rdOf w) opcode = w :=
  itypeWord_eq_iff.mpr ⟨h₁₂.symm, rfl, h₃.symm, rfl, h₀.symm⟩

theorem rtype12_of_bits {f12 : BitVec 12} {f5 : BitVec 5} (h₁₂ : bits w 20 12 = f12)
    (hf : f7 ++ f5 = f12) (h₃ : bits w 12 3 = f3) (h₀ : bits w 0 7 = opcode) :
    rtypeWord f7 f5 (rs1Of w) f3 (rdOf w) opcode = w := by
  obtain ⟨h₇, h₅⟩ := (append_eq_bits (m := 7) (n := 5)).mp (hf.trans h₁₂.symm)
  exact rtypeWord_eq_iff.mpr ⟨h₇, h₅, rfl, h₃.symm, rfl, h₀.symm⟩

/-- An address-translation fence is none of the instructions without operands. -/
theorem system_ne (h₇ : bits w 25 7 = 0b0001001#7) :
    w ≠ 0x00000073#32 ∧ w ≠ 0x30200073#32 ∧ w ≠ 0x10200073#32 ∧ w ≠ 0x00100073#32
      ∧ w ≠ 0x10500073#32 := by
  refine ⟨?_, ?_, ?_, ?_, ?_⟩ <;>
    (rintro rfl
     exact absurd h₇ (by decide))

theorem funct6_of_funct12 {f12 : BitVec 12} (h₁₂ : bits w 20 12 = f12) :
    bits w 26 6 = f12.extractLsb' 6 6 := by
  subst h₁₂
  exact (bits_bits w 20 12 6 6 (by decide)).symm

theorem fenceWord_of_bits {fm : BitVec 4} (h₂₈ : bits w 28 4 = fm)
    (h₀ : bits w 0 20 = 0x0000F#20) :
    itypeWord (fm ++ bits w 24 4 ++ bits w 20 4) 0b00000#5 0b000#3 0b00000#5 0b0001111#7 = w := by
  obtain ⟨h₁, h₂, h₃, h₄⟩ := low20_eq_iff.mp
    (show (0b00000#5 ++ 0b000#3 ++ 0b00000#5 ++ 0b0001111#7 : BitVec 20) = bits w 0 20 from h₀.symm)
  rw [itypeWord_eq_iff, append_eq_bits (m := 8) (n := 4), append_eq_bits (m := 4) (n := 4)]
  exact ⟨⟨⟨h₂₈.symm, rfl⟩, rfl⟩, h₁, h₂, h₃, h₄⟩

theorem sfenceWord_of_bits (h₇ : bits w 25 7 = f7) (h₀ : bits w 0 15 = 0x0073#15) :
    rtypeWord f7 (rs2Of w) (rs1Of w) 0b000#3 0b00000#5 0b1110011#7 = w := by
  obtain ⟨h₁, h₂, h₃⟩ := low15_eq_iff.mp
    (show (0b000#3 ++ 0b00000#5 ++ 0b1110011#7 : BitVec 15) = bits w 0 15 from h₀.symm)
  exact rtypeWord_eq_iff.mpr ⟨h₇.symm, rfl, rfl, h₁, h₂, h₃⟩

end OfBits

/-! ## Fields that mappings encode -/

theorem decodeUop_eq_some_iff {b : BitVec 7} {op : Uop} : decodeUop b = some op ↔ encodeUop op = b := by
  unfold decodeUop
  constructor
  · intro h
    split_ifs at h with h₁ h₂
    · cases h
      exact h₁.symm
    · cases h
      exact h₂.symm
  · rintro rfl
    cases op <;> rfl

theorem decodeBop_eq_some_iff {b : BitVec 3} {op : Bop} :
    decodeBop b = some op ↔ encodeBop op = b := by
  revert b
  cases op <;> decide

theorem decodeIop_eq_some_iff {b : BitVec 3} {op : Iop} :
    decodeIop b = some op ↔ encodeIop op = b := by
  revert b
  cases op <;> decide

theorem decodeAmoop_eq_some_iff {b : BitVec 5} {op : Amoop} :
    decodeAmoop b = some op ↔ encodeAmoop op = b := by
  revert b
  cases op <;> decide

theorem decodeMulOp_eq_some_iff {b : BitVec 3} {op : MulOp} :
    decodeMulOp b = some op ↔ encodeMulOp op = some b := by
  obtain ⟨h, s₁, s₂⟩ := op
  revert b h s₁ s₂
  decide

theorem decodeCbop_eq_some_iff {b : BitVec 12} {op : CbopZicbom} :
    decodeCbop b = some op ↔ encodeCbop op = b := by
  unfold decodeCbop
  constructor
  · intro h
    split_ifs at h with h₁ h₂ h₃
    · cases h
      exact h₁.symm
    · cases h
      exact h₂.symm
    · cases h
      exact h₃.symm
  · rintro rfl
    cases op <;> rfl

theorem lookup_csrop {b : BitVec 2} {op : Csrop} :
    ZicsrInst.encdecCsrop.lookup b = some op ↔ encodeCsrop op = b := by
  revert b
  cases op <;> decide

theorem sizeEnc_sizeDec (b : BitVec 2) : sizeEnc (sizeDec b) = b := by
  revert b
  decide

theorem sizeDec_sizeEnc (size : WordWidth) : sizeDec (sizeEnc size) = size := by
  cases size <;> rfl

theorem boolToBits_beq_one (b : BitVec 1) : boolToBits (b == 1#1) = b := by
  revert b
  decide

theorem boolNotBits_beq_zero (b : BitVec 1) : boolNotBits (b == 0#1) = b := by
  revert b
  decide

theorem boolToBits_beq (b : Bool) : (boolToBits b == 1#1) = b := by
  cases b <;> rfl

theorem boolNotBits_beq (b : Bool) : (boolNotBits b == 0#1) = b := by
  cases b <;> rfl

theorem decodeMulOp_append (b : BitVec 1) :
    decodeMulOp (0b10#2 ++ b) = none ∧ decodeMulOp (0b11#2 ++ b) = none := by
  revert b
  decide

/-! ## The family of a word -/

/-- The families of clauses; `PACKS` is for the words of `zext.h`, `pack` and `packw`. -/
inductive Owner where
  | BASE | ZIFENCEI | ATOMIC | MUL | CSR | FENCE_HINT | SVINVAL | ZBA | ZBB | ZBC | ZKN | ZBKB
  | PACKS | CACHE_BLOCK
  deriving DecidableEq, Repr

/-- The owner of a word with the opcode `0b0110011`. -/
def opOwner (funct7 : BitVec 7) (funct3 : BitVec 3) : Owner :=
  if funct7 = 0b0000001#7 then .MUL
  else if funct7 = 0b0000000#7 then .BASE
  else if funct7 = 0b0100000#7 then
    if funct3 = 0b000#3 ∨ funct3 = 0b101#3 then .BASE else .ZBB
  else if funct7 = 0b0010000#7 then .ZBA
  else if funct7 = 0b0000101#7 then
    if funct3 = 0b001#3 ∨ funct3 = 0b010#3 ∨ funct3 = 0b011#3 then .ZBC else .ZBB
  else if funct7 = 0b0110000#7 then .ZBB
  else if funct7 = 0b0000100#7 then if funct3 = 0b100#3 then .PACKS else .ZBKB
  else .ZKN

/-- The owner of a word with the opcode `0b0111011`. -/
def op32Owner (funct7 : BitVec 7) (funct3 : BitVec 3) : Owner :=
  if funct7 = 0b0000001#7 then .MUL
  else if funct7 = 0b0010000#7 then .ZBA
  else if funct7 = 0b0110000#7 then .ZBB
  else if funct7 = 0b0000100#7 then if funct3 = 0b100#3 then .PACKS else .ZBA
  else .BASE

/-- The owner of a word with the opcode `0b0010011`. -/
def opImmOwner (funct7 : BitVec 7) (rs2 : BitVec 5) (funct3 : BitVec 3) : Owner :=
  if funct3 ≠ 0b001#3 ∧ funct3 ≠ 0b101#3 then .BASE
  else if funct7 = 0b0001000#7 ∨ funct7 = 0b0011000#7 then .ZKN
  else if funct7 = 0b0000100#7 ∨ funct7 = 0b0110100#7 ∧ rs2 = 0b00111#5 then .ZBKB
  else if funct7 ∈ [0b0110000#7, 0b0110001#7, 0b0110100#7, 0b0110101#7, 0b0010100#7] then .ZBB
  else .BASE

/-- The owner of a word with the opcode `0b0011011`. -/
def opImm32Owner (funct7 : BitVec 7) (funct3 : BitVec 3) : Owner :=
  if funct3 = 0b000#3 then .BASE
  else if funct7 = 0b0000100#7 ∨ funct7 = 0b0000101#7 then .ZBA
  else if funct7 = 0b0110000#7 then .ZBB
  else .BASE

/-- The owner of a word with the opcode `0b0001111`. -/
def miscMemOwner (w : BitVec 32) : Owner :=
  if bits w 12 3 = 0b010#3 then .CACHE_BLOCK
  else if w = 0x0000100F#32 then .ZIFENCEI
  else if bits w 0 20 = 0x0000F#20 ∧ (bits w 28 4 = 0b0000#4 ∨ bits w 28 4 = 0b1000#4) then .BASE
  else .FENCE_HINT

/-- The owner of a word with the opcode `0b1110011`. -/
def systemOwner (funct7 : BitVec 7) (funct3 : BitVec 3) : Owner :=
  if funct3 ≠ 0b000#3 then .CSR
  else if funct7 = 0b0001011#7 ∨ funct7 = 0b0001100#7 then .SVINVAL
  else .BASE

/-- The family that a word belongs to. -/
def owner (w : BitVec 32) : Owner :=
  let opcode := bits w 0 7
  if opcode = 0b0110011#7 then opOwner (bits w 25 7) (bits w 12 3)
  else if opcode = 0b0111011#7 then op32Owner (bits w 25 7) (bits w 12 3)
  else if opcode = 0b0010011#7 then opImmOwner (bits w 25 7) (rs2Of w) (bits w 12 3)
  else if opcode = 0b0011011#7 then opImm32Owner (bits w 25 7) (bits w 12 3)
  else if opcode = 0b0001111#7 then miscMemOwner w
  else if opcode = 0b1110011#7 then systemOwner (bits w 25 7) (bits w 12 3)
  else if opcode = 0b0101111#7 then .ATOMIC
  else .BASE

section Owner

variable {w : BitVec 32} {f7 : BitVec 7} {f6 : BitVec 6} {f5 : BitVec 5} {f3 : BitVec 3}
  {o : Owner}

theorem owner_op (h₇ : bits w 25 7 = f7) (h₃ : bits w 12 3 = f3)
    (h₀ : bits w 0 7 = 0b0110011#7) (ho : opOwner f7 f3 = o) : owner w = o := by
  subst h₇ h₃ ho
  unfold owner
  rw [h₀]
  rfl

theorem owner_op32 (h₇ : bits w 25 7 = f7) (h₃ : bits w 12 3 = f3)
    (h₀ : bits w 0 7 = 0b0111011#7) (ho : op32Owner f7 f3 = o) : owner w = o := by
  subst h₇ h₃ ho
  unfold owner
  rw [h₀]
  rfl

theorem owner_opImm (h₇ : bits w 25 7 = f7) (h₅ : rs2Of w = f5) (h₃ : bits w 12 3 = f3)
    (h₀ : bits w 0 7 = 0b0010011#7) (ho : opImmOwner f7 f5 f3 = o) : owner w = o := by
  subst h₇ h₅ h₃ ho
  unfold owner
  rw [h₀]
  rfl

theorem owner_opImm32 (h₇ : bits w 25 7 = f7) (h₃ : bits w 12 3 = f3)
    (h₀ : bits w 0 7 = 0b0011011#7) (ho : opImm32Owner f7 f3 = o) : owner w = o := by
  subst h₇ h₃ ho
  unfold owner
  rw [h₀]
  rfl

theorem owner_miscMem (h₀ : bits w 0 7 = 0b0001111#7) : owner w = miscMemOwner w := by
  unfold owner
  rw [h₀]
  rfl

theorem owner_system (h₇ : bits w 25 7 = f7) (h₃ : bits w 12 3 = f3)
    (h₀ : bits w 0 7 = 0b1110011#7) (ho : systemOwner f7 f3 = o) : owner w = o := by
  subst h₇ h₃ ho
  unfold owner
  rw [h₀]
  rfl

theorem owner_of_fence (h₂₈ : bits w 28 4 = 0b0000#4 ∨ bits w 28 4 = 0b1000#4)
    (h₀ : bits w 0 20 = 0x0000F#20) : owner w = .BASE := by
  obtain ⟨-, h₃, -, h₀'⟩ := low20_eq_iff.mp
    (show (0b00000#5 ++ 0b000#3 ++ 0b00000#5 ++ 0b0001111#7 : BitVec 20) = bits w 0 20 from h₀.symm)
  rw [owner_miscMem h₀'.symm]
  unfold miscMemOwner
  rw [if_neg (by rw [← h₃]; decide), if_neg (by rintro rfl; exact absurd h₃ (by decide)),
    if_pos ⟨h₀, h₂₈⟩]

/-- The two values of `funct7` with the same upper bits. -/
theorem funct7_of_funct6 (h : bits w 26 6 = f6) :
    bits w 25 7 = f6 ++ 0b0#1 ∨ bits w 25 7 = f6 ++ 0b1#1 := by
  have hb : ∀ b : BitVec 1, b = 0#1 ∨ b = 1#1 := by decide
  have hsplit {b : BitVec 1} (hb : bits w 25 1 = b) : bits w 25 7 = f6 ++ b :=
    (append_eq_bits.mpr ⟨h.symm, hb.symm⟩).symm
  rcases hb (bits w 25 1) with h₁ | h₁
  · exact Or.inl (hsplit h₁)
  · exact Or.inr (hsplit h₁)

theorem opImmOwner_shift (rs2 : BitVec 5) (f3 : BitVec 3)
    (h : f7 ∈ [0b0000000#7, 0b0000001#7, 0b0100000#7, 0b0100001#7]) :
    opImmOwner f7 rs2 f3 = .BASE := by
  unfold opImmOwner
  split_ifs with h₃ h₇ h₈ h₉
  · rfl
  · rcases h₇ with rfl | rfl <;> exact absurd h (by decide)
  · rcases h₈ with rfl | ⟨rfl, -⟩ <;> exact absurd h (by decide)
  · clear h₇ h₈
    revert f7
    decide
  · rfl

theorem owner_of_itype (h₀ : bits w 0 7 = 0b0010011#7)
    (h₃ : bits w 12 3 ≠ 0b001#3 ∧ bits w 12 3 ≠ 0b101#3) : owner w = .BASE := by
  refine owner_opImm rfl rfl rfl h₀ ?_
  unfold opImmOwner
  rw [if_pos h₃]

theorem owner_of_shift (h₀ : bits w 0 7 = 0b0010011#7)
    (h₆ : bits w 26 6 = 0b000000#6 ∨ bits w 26 6 = 0b010000#6) : owner w = .BASE := by
  refine owner_opImm rfl rfl rfl h₀ (opImmOwner_shift _ _ ?_)
  rcases h₆ with h₆ | h₆ <;> rcases funct7_of_funct6 h₆ with h₇ | h₇ <;> rw [h₇] <;> decide

/-- The words of the instructions without operands. -/
theorem owner_of_system 
    (h : w ∈ [0x00000073#32, 0x30200073#32, 0x10200073#32, 0x00100073#32, 0x10500073#32]) :
    owner w = .BASE := by
  simp only [List.mem_cons, List.not_mem_nil, or_false] at h
  rcases h with rfl | rfl | rfl | rfl | rfl <;> rfl

theorem owner_of_sfence (h₇ : bits w 25 7 = f7)
    (h₀ : bits w 0 15 = 0x0073#15) (ho : systemOwner f7 0b000#3 = o) : owner w = o := by
  obtain ⟨h₁, -, h₃⟩ := low15_eq_iff.mp
    (show (0b000#3 ++ 0b00000#5 ++ 0b1110011#7 : BitVec 15) = bits w 0 15 from h₀.symm)
  exact owner_system h₇ h₁.symm h₃.symm ho

theorem owner_of_opcode {opcode : BitVec 7} (h₀ : bits w 0 7 = opcode)
    (h : opcode ∉ [0b0110011#7, 0b0111011#7, 0b0010011#7, 0b0011011#7, 0b0001111#7, 0b1110011#7,
      0b0101111#7]) : owner w = .BASE := by
  simp only [List.mem_cons, List.not_mem_nil, or_false, not_or] at h
  unfold owner
  rw [h₀]
  simp only [h, if_false]

theorem owner_fencei : owner 0x0000100F#32 = .ZIFENCEI := rfl

theorem owner_of_fenceReserved (h₃ : bits w 12 3 = 0b000#3) (h₀ : bits w 0 7 = 0b0001111#7)
    (hres : (bits w 28 4 != 0b0000#4 && bits w 28 4 != 0b1000#4) || rs1Of w != 0b00000#5
      || rdOf w != 0b00000#5) : owner w = .FENCE_HINT := by
  rw [owner_miscMem h₀]
  unfold miscMemOwner
  rw [if_neg (by rw [h₃]; decide), if_neg (by rintro rfl; exact absurd h₃ (by decide)), if_neg]
  rintro ⟨hlow, hfm⟩
  obtain ⟨h₁, -, h₅, -⟩ := low20_eq_iff.mp
    (show (0b00000#5 ++ 0b000#3 ++ 0b00000#5 ++ 0b0001111#7 : BitVec 20) = bits w 0 20
      from hlow.symm)
  rw [← h₁, ← h₅] at hres
  rcases hfm with hfm | hfm <;> rw [hfm] at hres <;> exact absurd hres (by decide)

theorem owner_of_fenceiReserved (h₃ : bits w 12 3 = 0b001#3) (h₀ : bits w 0 7 = 0b0001111#7)
    (hres : bits w 20 12 != 0b000000000000#12 || rs1Of w != 0b00000#5 || rdOf w != 0b00000#5) :
    owner w = .FENCE_HINT := by
  rw [owner_miscMem h₀]
  unfold miscMemOwner
  rw [if_neg (by rw [h₃]; decide), if_neg (by rintro rfl; exact absurd hres (by decide)), if_neg]
  rintro ⟨hlow, -⟩
  obtain ⟨-, h₁, -, -⟩ := low20_eq_iff.mp
    (show (0b00000#5 ++ 0b000#3 ++ 0b00000#5 ++ 0b0001111#7 : BitVec 20) = bits w 0 20
      from hlow.symm)
  rw [h₃] at h₁
  exact absurd h₁ (by decide)

theorem owner_of_inval (h : w = 0x18000073#32 ∨ w = 0x18100073#32) : owner w = .SVINVAL := by
  rcases h with rfl | rfl <;> rfl

theorem owner_of_csr (h₁₂ : bits w 12 2 ≠ 0b00#2) (h₀ : bits w 0 7 = 0b1110011#7) :
    owner w = .CSR := by
  refine owner_system rfl rfl h₀ ?_
  unfold systemOwner
  rw [if_pos]
  intro h₃
  have h := (append_eq_bits (m := 1) (n := 2)).mp (show (0b0#1 ++ 0b00#2 : BitVec 3) = _ from h₃.symm)
  exact h₁₂ h.2.symm

theorem owner_of_cbo (h₃ : bits w 12 3 = 0b010#3) (h₀ : bits w 0 7 = 0b0001111#7) :
    owner w = .CACHE_BLOCK := by
  rw [owner_miscMem h₀]
  unfold miscMemOwner
  rw [if_pos h₃]

theorem owner_of_atomic (h₀ : bits w 0 7 = 0b0101111#7) : owner w = .ATOMIC := by
  unfold owner
  rw [h₀]
  rfl

theorem owner_of_slliuw (h₆ : bits w 26 6 = 0b000010#6) (h₃ : bits w 12 3 = 0b001#3)
    (h₀ : bits w 0 7 = 0b0011011#7) : owner w = .ZBA := by
  rcases funct7_of_funct6 h₆ with h₇ | h₇
  · exact owner_opImm32 h₇ h₃ h₀ rfl
  · exact owner_opImm32 h₇ h₃ h₀ rfl

theorem owner_opImm12 {f12 : BitVec 12} (h₁₂ : bits w 20 12 = f12) (h₃ : bits w 12 3 = f3)
    (h₀ : bits w 0 7 = 0b0010011#7)
    (ho : opImmOwner (f12.extractLsb' 5 7) (f12.extractLsb' 0 5) f3 = o) : owner w = o :=
  owner_opImm (funct12_of_bits h₁₂).1 (funct12_of_bits h₁₂).2 h₃ h₀ ho

theorem owner_of_rori (h₆ : bits w 26 6 = 0b011000#6) (h₃ : bits w 12 3 = 0b101#3)
    (h₀ : bits w 0 7 = 0b0010011#7) : owner w = .ZBB := by
  rcases funct7_of_funct6 h₆ with h₇ | h₇
  · exact owner_opImm h₇ rfl h₃ h₀ rfl
  · exact owner_opImm h₇ rfl h₃ h₀ rfl

theorem owner_of_aes32 (h₅ : bits w 25 5 = f5)
    (hf : f5 ∈ [0b10011#5, 0b10001#5, 0b10111#5, 0b10101#5]) (h₃ : bits w 12 3 = 0b000#3)
    (h₀ : bits w 0 7 = 0b0110011#7) : owner w = .ZKN := by
  have h₇ : bits w 25 7 = bits w 30 2 ++ f5 := (append_eq_bits.mpr ⟨rfl, h₅.symm⟩).symm
  have hall : ∀ f ∈ [0b10011#5, 0b10001#5, 0b10111#5, 0b10101#5], ∀ bs : BitVec 2,
      opOwner (bs ++ f) 0b000#3 = .ZKN := by decide
  exact owner_op h₇ h₃ h₀ (hall f5 hf (bits w 30 2))

end Owner

end SailRiscv
