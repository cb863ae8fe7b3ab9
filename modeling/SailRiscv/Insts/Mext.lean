/-
# Integer multiplication and division

`riscv_insts_mext.sail`.
-/
import SailRiscv.Insts.Common

namespace SailRiscv

open Bits Platform

/-! ## Syntax -/

/-- `mul_op`. -/
structure MulOp where
  high : Bool
  signedRs1 : Bool
  signedRs2 : Bool
  deriving DecidableEq, Repr

/-- The clauses of `ast` for multiplication and division. -/
inductive MulInst where
  | MUL (rs2 rs1 rd : Regidx) (op : MulOp)
  | DIV (rs2 rs1 rd : Regidx) (s : Bool)
  | REM (rs2 rs1 rd : Regidx) (s : Bool)
  | MULW (rs2 rs1 rd : Regidx)
  | DIVW (rs2 rs1 rd : Regidx) (s : Bool)
  | REMW (rs2 rs1 rd : Regidx) (s : Bool)
  deriving DecidableEq, Repr

variable [Platform]

/-! ## Decoding -/

/-- `encdec_mul_op`, read backwards. -/
def decodeMulOp (b : BitVec 3) : Option MulOp :=
  if b = 0b000#3 then some ⟨false, true, true⟩
  else if b = 0b001#3 then some ⟨true, true, true⟩
  else if b = 0b010#3 then some ⟨true, true, false⟩
  else if b = 0b011#3 then some ⟨true, false, false⟩
  else none

/-- The clauses of `encdec` for multiplication and division, read backwards. -/
def MulInst.decode (s : State) (w : BitVec 32) : Option MulInst :=
  let op := bits w 25 7 == 0b0000001#7 && bits w 0 7 == 0b0110011#7
  let opw := bits w 25 7 == 0b0000001#7 && bits w 0 7 == 0b0111011#7
  let signed := bits w 12 1 == 0#1
  let mul := extensionEnabled s .M || extensionEnabled s .Zmmul
  let div := extensionEnabled s .M
  firstClause [
    if op && mul then
      (decodeMulOp (bits w 12 3)).map (fun m => .MUL (rs2Of w) (rs1Of w) (rdOf w) m)
    else none,
    clause (op && bits w 13 2 == 0b10#2 && div) (.DIV (rs2Of w) (rs1Of w) (rdOf w) signed),
    clause (op && bits w 13 2 == 0b11#2 && div) (.REM (rs2Of w) (rs1Of w) (rdOf w) signed),
    clause (opw && bits w 12 3 == 0b000#3 && (decide (xlen = 64) && mul))
      (.MULW (rs2Of w) (rs1Of w) (rdOf w)),
    clause (opw && bits w 13 2 == 0b10#2 && (decide (xlen = 64) && div))
      (.DIVW (rs2Of w) (rs1Of w) (rdOf w) signed),
    clause (opw && bits w 13 2 == 0b11#2 && (decide (xlen = 64) && div))
      (.REMW (rs2Of w) (rs1Of w) (rdOf w) signed)]

/-! ## Computations -/

/-- The value of an operand. -/
def operandInt {n : ℕ} (signed : Bool) (v : BitVec n) : ℤ := if signed then v.toInt else v.toNat

/-- The product of `MUL`. -/
def MulOp.result (op : MulOp) (rs1Val rs2Val : Xlenbits) : Xlenbits :=
  let wide := BitVec.ofInt (2 * xlen)
    (operandInt op.signedRs1 rs1Val * operandInt op.signedRs2 rs2Val)
  if op.high then wide.extractLsb' xlen xlen else wide.extractLsb' 0 xlen

/-- The quotient of `DIV` and `DIVW`. -/
def divResult {n : ℕ} (s : Bool) (rs1Val rs2Val : BitVec n) : BitVec n :=
  let rs1Int := operandInt s rs1Val
  let rs2Int := operandInt s rs2Val
  let q : ℤ := if rs2Int = 0 then -1 else rs1Int.tdiv rs2Int
  -- signed overflow
  let q' : ℤ := if s ∧ q > 2 ^ (n - 1) - 1 then 0 - 2 ^ (n - 1) else q
  BitVec.ofInt n q'

/-- The remainder of `REM` and `REMW`. -/
def remResult {n : ℕ} (s : Bool) (rs1Val rs2Val : BitVec n) : BitVec n :=
  let rs1Int := operandInt s rs1Val
  let rs2Int := operandInt s rs2Val
  BitVec.ofInt n (if rs2Int = 0 then rs1Int else rs1Int.tmod rs2Int)

/-! ## Execution -/

/-- `execute`. -/
def MulInst.execute : MulInst → M Retired
  | .MUL rs2 rs1 rd op => do retireX rd (op.result (← rX rs1) (← rX rs2))
  | .DIV rs2 rs1 rd s => do retireX rd (divResult s (← rX rs1) (← rX rs2))
  | .REM rs2 rs1 rd s => do retireX rd (remResult s (← rX rs1) (← rX rs2))
  | .MULW rs2 rs1 rd => do
      let rs1Val := word (← rX rs1)
      let rs2Val := word (← rX rs2)
      let result32 := (BitVec.ofInt 64 (rs1Val.toInt * rs2Val.toInt)).extractLsb' 0 32
      retireX rd (result32.signExtend xlen)
  | .DIVW rs2 rs1 rd s => do
      retireX rd ((divResult s (word (← rX rs1)) (word (← rX rs2))).signExtend xlen)
  | .REMW rs2 rs1 rd s => do
      retireX rd ((remResult s (word (← rX rs1)) (word (← rX rs2))).signExtend xlen)

/-! ## What execution does -/

variable {R : State → State → Prop} [CoreRel R]

/-- A multiplication or division writes one register. -/
instance MulInst.settles (i : MulInst) : Exec.Settles R SyncTrap Failed i.execute := by
  unfold MulInst.execute
  rcases i with _ | _ | _ | _ | _ | _ <;> infer_instance

end SailRiscv
