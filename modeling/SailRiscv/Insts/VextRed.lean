/-
# Vector integer reductions

`riscv_insts_vext_red.sail`.
-/
import SailRiscv.Insts.VextArith

namespace SailRiscv

open Bits Platform

/-! ## Syntax -/

/-- `rivvfunct6`. -/
inductive Rivvfunct6 where
  | IVV_VWREDSUMU | IVV_VWREDSUM
  deriving DecidableEq, Repr

/-- `rmvvfunct6`. -/
inductive Rmvvfunct6 where
  | MVV_VREDSUM | MVV_VREDAND | MVV_VREDOR | MVV_VREDXOR | MVV_VREDMINU | MVV_VREDMIN
  | MVV_VREDMAXU | MVV_VREDMAX
  deriving DecidableEq, Repr

/-- The clauses of `ast` for integer reductions. -/
inductive VextRedInst where
  | RIVVTYPE (funct6 : Rivvfunct6) (vm : BitVec 1) (vs2 vs1 vd : Regidx)
  | RMVVTYPE (funct6 : Rmvvfunct6) (vm : BitVec 1) (vs2 vs1 vd : Regidx)
  deriving DecidableEq, Repr

/-! ## Decoding -/

/-- `encdec_rivvfunct6`. -/
def encdecRivvfunct6 : List (BitVec 6 × Rivvfunct6) :=
  [(0b110000, .IVV_VWREDSUMU), (0b110001, .IVV_VWREDSUM)]

/-- `encdec_rmvvfunct6`. -/
def encdecRmvvfunct6 : List (BitVec 6 × Rmvvfunct6) :=
  [(0b000000, .MVV_VREDSUM), (0b000001, .MVV_VREDAND), (0b000010, .MVV_VREDOR),
   (0b000011, .MVV_VREDXOR), (0b000100, .MVV_VREDMINU), (0b000101, .MVV_VREDMIN),
   (0b000110, .MVV_VREDMAXU), (0b000111, .MVV_VREDMAX)]

variable [Platform]

/-- The clauses of `encdec` for integer reductions, read backwards. -/
def VextRedInst.decode (s : State) (w : BitVec 32) : Option VextRedInst :=
  let opV := bits w 0 7 == 0b1010111#7 && extensionEnabled s .V
  firstClause [
    mapped (opV && bits w 12 3 == 0b000#3) encdecRivvfunct6 (funct6Of w)
      (.RIVVTYPE · (vmOf w) (rs2Of w) (rs1Of w) (rdOf w)),
    mapped (opV && bits w 12 3 == 0b010#3) encdecRmvvfunct6 (funct6Of w)
      (.RMVVTYPE · (vmOf w) (rs2Of w) (rs1Of w) (rdOf w))]

/-! ## Execution -/

/-- `if unsigned(vl) == 0 then return RETIRE_SUCCESS`, and the rest of the clause. -/
def unlessEmpty (k : M Retired) : M Retired := do
  if ← Exec.reads (fun s => s.vl.toNat == 0) then pure .RETIRE_SUCCESS else k

/-- The reduction of the active elements of `vs2` to an element of the width `o`, from the
first element of `vs1`; the operands and the result are read as the source reads them. -/
def reduce {m : ℕ} (n numElemVd o : ℕ) (lmul : ℤ) (vm : BitVec 1) (vs1 vd : Regidx)
    (readVs2 : M (ℕ → BitVec m)) (elem : BitVec m → BitVec o → BitVec o) : M Retired := do
  let vmVal ← readVmask n vm 0b00000#5
  let _ ← readVreg numElemVd o 0 vd
  let v2 ← readVs2
  let mask ← initMaskedSource n lmul vmVal
  let first ← readSingleElement o 0 vs1
  writeSingleElement o 0 vd
    (forUp n first fun i sum => if mask i then elem (v2 i) sum else sum)
  endVector

/-- `execute RIVVTYPE`. -/
def executeRIVVTYPE (funct6 : Rivvfunct6) (vm : BitVec 1) (vs2 vs1 vd : Regidx) : M Retired := do
  let c ← vconf
  let numElemVd ← getNumElem 0 c.widen.sew
  orIllegal (fun s => illegalReductionWiden s c.widen.sew c.widen.lmul) <|
    unlessEmpty <|
      reduce c.n numElemVd c.widen.sew c.lmul vm vs1 vd (c.group vs2) fun v sum =>
        match funct6 with
        | .IVV_VWREDSUMU => sum + toBits c.widen.sew v.toNat
        | .IVV_VWREDSUM => sum + toBits c.widen.sew v.toInt

/-- `execute RMVVTYPE`. -/
def executeRMVVTYPE (funct6 : Rmvvfunct6) (vm : BitVec 1) (vs2 vs1 vd : Regidx) : M Retired := do
  let c ← vconf
  let numElemVd ← getNumElem 0 c.sew
  orIllegal illegalReduction <|
    unlessEmpty <|
      reduce c.n numElemVd c.sew c.lmul vm vs1 vd (c.group vs2) fun v sum =>
        match funct6 with
        | .MVV_VREDSUM => sum + v
        | .MVV_VREDAND => sum &&& v
        | .MVV_VREDOR => sum ||| v
        | .MVV_VREDXOR => sum ^^^ v
        | .MVV_VREDMIN => vmin v sum
        | .MVV_VREDMINU => vminu v sum
        | .MVV_VREDMAX => vmax v sum
        | .MVV_VREDMAXU => vmaxu v sum

/-- `execute` of the clauses for integer reductions. -/
def VextRedInst.execute : VextRedInst → M Retired
  | .RIVVTYPE f vm vs2 vs1 vd => executeRIVVTYPE f vm vs2 vs1 vd
  | .RMVVTYPE f vm vs2 vs1 vd => executeRMVVTYPE f vm vs2 vs1 vd

end SailRiscv
