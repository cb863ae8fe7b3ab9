/-
# The configuration-setting instructions of the vector extension

`riscv_insts_vext_vset.sail`.
-/
import SailRiscv.VextRegs

namespace SailRiscv

open Bits Platform

/-! ## Syntax -/

/-- The clauses of `ast` for the configuration-setting instructions. -/
inductive VsetInst where
  | VSETVLI (ma ta : BitVec 1) (sew lmul : BitVec 3) (rs1 rd : Regidx)
  | VSETVL (rs2 rs1 rd : Regidx)
  | VSETIVLI (ma ta : BitVec 1) (sew lmul : BitVec 3) (uimm rd : Regidx)
  deriving DecidableEq, Repr

variable [Platform]

/-! ## Decoding -/

/-- The clauses of `encdec` for the configuration-setting instructions, read backwards. -/
def VsetInst.decode (s : State) (w : BitVec 32) : Option VsetInst :=
  let vset := bits w 12 3 == 0b111#3 && bits w 0 7 == 0b1010111#7 && extensionEnabled s .V
  firstClause [
    clause (bits w 28 4 == 0b0000#4 && vset)
      (.VSETVLI (bits w 27 1) (bits w 26 1) (bits w 23 3) (bits w 20 3) (rs1Of w) (rdOf w)),
    clause (bits w 25 7 == 0b1000000#7 && vset) (.VSETVL (rs2Of w) (rs1Of w) (rdOf w)),
    clause (bits w 28 4 == 0b1100#4 && vset)
      (.VSETIVLI (bits w 27 1) (bits w 26 1) (bits w 23 3) (bits w 20 3) (rs1Of w) (rdOf w))]

/-! ## Execution -/

/-- `vtype` with `vill` set and nothing else. -/
def villVtype : Xlenbits := 1#1 ++ 0#(xlen - 1) |>.setWidth xlen

/-- `handle_illegal_vtype`. -/
def handleIllegalVtype : M Unit :=
  Exec.update (fun s => { s with
    vtype := villVtype
    vl := 0#_ })

/-- `calculate_new_vl`. -/
def calculateNewVl (AVL VLMAX : ℕ) : Xlenbits :=
  if AVL ≤ VLMAX then BitVec.ofNat xlen AVL
  else if AVL < 2 * VLMAX then BitVec.ofNat xlen ((AVL + 1) / 2)
  else BitVec.ofNat xlen VLMAX

/-- The `vtype` that the immediate of `vsetvli` and `vsetivli` requests. -/
def vtypeImm (ma ta : BitVec 1) (sew lmul : BitVec 3) : Xlenbits :=
  (ma ++ ta ++ sew ++ lmul).setWidth xlen

/-- `2 ^ (VLEN_pow + LMUL_pow - SEW_pow)`. -/
def vlmaxOf (lmul : ℤ) (sew : ℕ) : ℕ := 2 ^ (vlenPow + lmul - sew).toNat

/-- `vl = v; X(rd) = vl`. -/
def setVl (rd : Regidx) (v : Xlenbits) : M Unit := do
  Exec.update (fun s => { s with vl := v })
  wX rd v

/-- The end of an accepted request. -/
def endVset : M Retired := do
  Exec.update (fun s => { s with vstart := 0#16 })
  pure .RETIRE_SUCCESS

/-- The end of a request that is not supported. -/
def rejectVset : M Retired := do
  handleIllegalVtype
  pure .RETIRE_SUCCESS

/-- The common body of `execute VSETVLI` and `execute VSETVL`, with the requested `vtype`. -/
def executeVset (request : M Xlenbits) (rs1 rd : Regidx) : M Retired := do
  let lmulOri ← getLmulPow
  let sewOri ← getSewPow
  let ratioOri : ℤ := sewOri - lmulOri
  let vtype ← request
  Exec.update (fun s => { s with vtype := vtype })
  let lmulNew ← getLmulPow
  let sewNew ← getSewPow
  if (sewNew : ℤ) > lmulNew + elenPow then rejectVset
  else if rs1 ≠ 0b00000#5 then do
    let rs1Val ← rX rs1
    setVl rd (calculateNewVl rs1Val.toNat (vlmaxOf lmulNew sewNew))
    endVset
  else if rd ≠ 0b00000#5 then do
    setVl rd (BitVec.ofNat xlen (vlmaxOf lmulNew sewNew))
    endVset
  else if sewNew - lmulNew ≠ ratioOri then rejectVset
  else endVset

/-- `execute VSETIVLI`. -/
def executeVsetivli (ma ta : BitVec 1) (sew lmul : BitVec 3) (uimm rd : Regidx) :
    M Retired := do
  Exec.update (fun s => { s with vtype := vtypeImm ma ta sew lmul })
  let lmulNew ← getLmulPow
  let sewNew ← getSewPow
  if (sewNew : ℤ) > lmulNew + elenPow then rejectVset
  else do
    setVl rd (calculateNewVl uimm.toNat (vlmaxOf lmulNew sewNew))
    endVset

/-- `execute`. -/
def VsetInst.execute : VsetInst → M Retired
  | .VSETVLI ma ta sew lmul rs1 rd => executeVset (pure (vtypeImm ma ta sew lmul)) rs1 rd
  | .VSETVL rs2 rs1 rd => executeVset (rX rs2) rs1 rd
  | .VSETIVLI ma ta sew lmul uimm rd => executeVsetivli ma ta sew lmul uimm rd

end SailRiscv
