/-
# The floating-point registers

`riscv_fdext_regs.sail`: the register file, the values boxed in its registers, and the
accessors that use the integer registers instead when Zfinx is enabled.
-/
import SailRiscv.FpValues
import SailRiscv.Insts.Common

namespace SailRiscv

open Bits Platform

variable [Platform]

/-! ## Boxed values -/

/-- `nan_box`. -/
def nanBox {n : ℕ} (v : BitVec n) : BitVec flen := (BitVec.allOnes (flen - n) ++ v).setWidth flen

/-- `nan_unbox`. -/
def nanUnbox (f : FpFormat) (v : BitVec flen) : BitVec f.width :=
  if flen = f.width then v.setWidth f.width
  else if v.extractLsb' f.width (flen - f.width) = BitVec.allOnes _ then v.extractLsb' 0 f.width
  else canonicalNaN f

/-! ## The registers -/

/-- `rF_bits`. -/
def rF (i : Regidx) : M (BitVec flen) := do
  assert sysEnableFdext fpAccessor
  Exec.reads (fun s => s.f i.toFin)

/-- `wF_bits`. -/
def wF (i : Regidx) (v : BitVec flen) : M Unit := do
  assert sysEnableFdext fpAccessor
  Exec.update (fun s => { s with
    f := Function.update s.f i.toFin v })
  dirtyFdContext

/-- `rF_H`, `rF_S` and `rF_D`. -/
def rFp (f : FpFormat) (i : Regidx) : M (BitVec f.width) := do
  assert (decide (f.width ≤ flen)) fpAccessor
  assert (sysEnableFdext && !sysEnableZfinx) fpAccessor
  pure (nanUnbox f (← rF i))

/-- `wF_H`, `wF_S` and `wF_D`. -/
def wFp (f : FpFormat) (i : Regidx) (data : BitVec f.width) : M Unit := do
  assert (decide (f.width ≤ flen)) fpAccessor
  assert (sysEnableFdext && !sysEnableZfinx) fpAccessor
  wF i (nanBox data)

/-- The register after `i` in a pair. -/
def pairReg (i : Regidx) : Regidx := i + 1#5

/-- The pair of integer registers that holds a double on RV32. -/
def rXpair (i : Regidx) : M (BitVec 64) := do
  assert (!i.getLsbD 0) fpAccessor
  Exec.reads (fun s => if i = 0#5 then 0#64 else (s.X (pairReg i) ++ s.X i).setWidth 64)

/-- A write to the pair of integer registers that holds a double on RV32. -/
def wXpair (i : Regidx) (data : BitVec 64) : M Unit := do
  assert (!i.getLsbD 0) fpAccessor
  Exec.update (fun s =>
    if i = 0#5 then s
    else (s.setX i ((data.extractLsb' 0 32).setWidth xlen)).setX (pairReg i)
      ((data.extractLsb' 32 32).setWidth xlen))

/-- The integer registers that hold a value of a format. -/
def rXfp : (f : FpFormat) → Regidx → M (BitVec f.width)
  | .H, i => do pure ((← rX i).extractLsb' 0 16)
  | .S, i => do pure ((← rX i).extractLsb' 0 32)
  | .D, i => if xlen ≥ 64 then do pure ((← rX i).extractLsb' 0 64) else rXpair i

/-- A write to the integer registers that hold a value of a format. -/
def wXfp : (f : FpFormat) → Regidx → BitVec f.width → M Unit
  | .H, i, data => wX i (data.signExtend xlen)
  | .S, i, data => wX i (data.signExtend xlen)
  | .D, i, data => if xlen ≥ 64 then wX i (data.signExtend xlen) else wXpair i data

/-- `rF_or_X_H`, `rF_or_X_S` and `rF_or_X_D`. -/
def rFOrX (f : FpFormat) (i : Regidx) : M (BitVec f.width) := do
  assert (decide (f.width ≤ flen)) fpAccessor
  assert (sysEnableFdext != sysEnableZfinx) fpAccessor
  if sysEnableFdext then rFp f i else rXfp f i

/-- `wF_or_X_H`, `wF_or_X_S` and `wF_or_X_D`. -/
def wFOrX (f : FpFormat) (i : Regidx) (data : BitVec f.width) : M Unit := do
  assert (decide (f.width ≤ flen)) fpAccessor
  assert (sysEnableFdext != sysEnableZfinx) fpAccessor
  if sysEnableFdext then wFp f i data else wXfp f i data

/-! ## Flags and rounding -/

/-- `accrue_fflags`. -/
def accrueFflags (flags : Fflags) : M Unit := do
  let f ← Exec.reads (fun s => Fcsr.FFLAGS.get s.fcsr)
  if f = (f ||| flags : Fflags) then pure ()
  else do
    Exec.update (fun s => { s with
      fcsr := Fcsr.FFLAGS.set s.fcsr (f ||| flags) })
    dirtyFdContextIfPresent

/-- The match on `select_instr_or_fcsr_rm`. -/
def onRm (k : BitVec 3 → M Retired) : Option RoundingMode → M Retired
  | none => illegal
  | some rm => k (encdecRoundingMode rm)

/-- `match select_instr_or_fcsr_rm(rm)`. -/
def withRm (rm : RoundingMode) (k : BitVec 3 → M Retired) : M Retired := do
  onRm k (← Exec.reads (fun s => selectInstrOrFcsrRm s rm))

end SailRiscv
