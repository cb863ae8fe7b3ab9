/-
# What the cryptography instructions write

The clauses with one or two operands, as functions from the operands to the value that is written:
whatever registers hold the operands, in whatever state.
-/
import SailRiscv.Rotations

namespace SailRiscv

open Platform

/-! ## Laws of words -/

section

variable {n : ℕ}

/-- Exclusive or, the last of the laws that sort its terms. -/
theorem xor_left_comm (a b c : BitVec n) : a ^^^ (b ^^^ c) = b ^^^ (a ^^^ c) := by
  rw [← BitVec.xor_assoc, BitVec.xor_comm a b, BitVec.xor_assoc]

end

/-! ## The values that are written -/

section

variable [Platform] {n : ℕ}

/-- Executed with `x` in its operand, the instruction retires and writes `v`. -/
def WritesOne (inst : Regidx → Regidx → ZknInst) (x v : BitVec n) : Prop :=
  ∀ (rs1 rd : Regidx) (s : State), s.X rs1 = x.setWidth xlen →
    (inst rs1 rd).execute.run s = .ok (.RETIRE_SUCCESS, s.setX rd (v.setWidth xlen))

/-- Executed with `y` in `rs2` and `x` in `rs1`, the instruction retires and writes `v`. -/
def WritesTwo (inst : Regidx → Regidx → Regidx → ZknInst) (y x v : BitVec n) : Prop :=
  ∀ (rs2 rs1 rd : Regidx) (s : State), s.X rs2 = y.setWidth xlen → s.X rs1 = x.setWidth xlen →
    (inst rs2 rs1 rd).execute.run s = .ok (.RETIRE_SUCCESS, s.setX rd (v.setWidth xlen))

/-- An operand that is read at its own width. -/
theorem setWidth_back (hn : xlen = n) (x : BitVec n) : (x.setWidth xlen).setWidth n = x := by
  rw [BitVec.setWidth_setWidth_of_le x hn.ge, BitVec.setWidth_eq]

/-- The clauses of RV64 with one operand. -/
theorem writesOne_unary64 (h64 : xlen = 64) {inst : Regidx → Regidx → ZknInst}
    {g : BitVec 64 → BitVec 64} (hinst : ∀ rs1 rd, (inst rs1 rd).execute = unary64 rs1 rd g)
    (x : BitVec 64) : WritesOne inst x (g x) := by
  intro rs1 rd s hx
  rw [hinst]
  unfold unary64
  rw [decide_eq_true h64]
  show Except.ok (_, s.setX rd ((g ((s.X rs1).setWidth 64)).setWidth xlen)) = _
  rw [hx, setWidth_back h64 x]

/-- The clauses of RV64 with two operands. -/
theorem writesTwo_binary64 (h64 : xlen = 64) {inst : Regidx → Regidx → Regidx → ZknInst}
    {g : BitVec 64 → BitVec 64 → BitVec 64}
    (hinst : ∀ rs2 rs1 rd, (inst rs2 rs1 rd).execute = binary64 rs2 rs1 rd g) (y x : BitVec 64) :
    WritesTwo inst y x (g y x) := by
  intro rs2 rs1 rd s hy hx
  rw [hinst]
  unfold binary64
  rw [decide_eq_true h64]
  show Except.ok (_, s.setX rd ((g ((s.X rs2).setWidth 64) ((s.X rs1).setWidth 64)).setWidth xlen))
    = _
  rw [hy, hx, setWidth_back h64 y, setWidth_back h64 x]

/-- The value of a clause that combines `x` with a function of the byte of `y` that `bs` selects. -/
def byteRoundValue (bs : BitVec 2) (f : BitVec 8 → BitVec 32) (y x : BitVec 32) : BitVec 32 :=
  let shamt : BitVec 5 := bs ++ 0b000#3
  x ^^^ rotateBitsLeft (f (bits (y >>> shamt) 0 8)) shamt

/-- The clauses of RV32 that combine one operand with a byte of the other. -/
theorem writesTwo_byteRound (h32 : xlen = 32) {inst : Regidx → Regidx → Regidx → ZknInst}
    {bs : BitVec 2} {f : BitVec 8 → BitVec 32}
    (hinst : ∀ rs2 rs1 rd, (inst rs2 rs1 rd).execute = byteRound bs rs2 rs1 rd f)
    (y x : BitVec 32) : WritesTwo inst y x (byteRoundValue bs f y x) := by
  intro rs2 rs1 rd s hy hx
  rw [hinst]
  show Except.ok (_, s.setX rd ((word (s.X rs1) ^^^ rotateBitsLeft
    (f (bits (s.X rs2 >>> (bs ++ 0b000#3 : BitVec 5)) 0 8)) (bs ++ 0b000#3 : BitVec 5)).signExtend
      xlen)) = _
  have hword : word (s.X rs1) = x := by
    unfold word
    rw [hx, ← BitVec.setWidth_eq_extractLsb' h32.ge]
    exact setWidth_back h32 x
  have hbyte (k : BitVec 5) : bits (s.X rs2 >>> k) 0 8 = bits (y >>> k) 0 8 := by
    have hgen (w : ℕ) (hw : w = 32) : bits (y.setWidth w >>> k) 0 8 = bits (y >>> k) 0 8 := by
      subst hw
      rw [BitVec.setWidth_eq]
    rw [hy, hgen xlen h32]
  have hext (v : BitVec 32) : v.signExtend xlen = v.setWidth xlen := by
    have hgen (w : ℕ) (hw : w = 32) : v.signExtend w = v.setWidth w := by
      subst hw
      rw [BitVec.signExtend_eq, BitVec.setWidth_eq]
    exact hgen xlen h32
  rw [hword, hbyte, hext]
  rfl

end

end SailRiscv
