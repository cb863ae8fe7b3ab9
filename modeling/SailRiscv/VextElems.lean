/-
# The computations on elements

What the element-wise clauses of the vector extension compute from the elements of their
operands, shared by their vector, scalar and immediate forms; and the operands themselves.
-/
import SailRiscv.VextUtils

namespace SailRiscv

open Bits Platform

/-! ## Integers -/

/-- `to_bits`. -/
def toBits (m : ℕ) (x : ℤ) : BitVec m := BitVec.ofInt m x

/-- `get_slice_int`. -/
def getSliceInt (m : ℕ) (x : ℤ) (start : ℕ) : BitVec m := BitVec.ofInt m (x >>> start)

/-- The bits of a Boolean as a number. -/
def boolToNat (b : Bool) : ℕ := (boolToBits b).toNat

variable [Platform]

section

variable {m : ℕ}

/-- `VV_VMINU`. -/
def vminu (a b : BitVec m) : BitVec m := toBits m (min a.toNat b.toNat : ℕ)

/-- `VV_VMIN`. -/
def vmin (a b : BitVec m) : BitVec m := toBits m (min a.toInt b.toInt)

/-- `VV_VMAXU`. -/
def vmaxu (a b : BitVec m) : BitVec m := toBits m (max a.toNat b.toNat : ℕ)

/-- `VV_VMAX`. -/
def vmax (a b : BitVec m) : BitVec m := toBits m (max a.toInt b.toInt)

/-! ## Saturating addition and multiplication -/

/-- `VV_VSADDU`. -/
def vsaddu (a b : BitVec m) : M (BitVec m) :=
  unsignedSaturation m (a.setWidth (m + 1) + b.setWidth (m + 1))

/-- `VV_VSADD`. -/
def vsadd (a b : BitVec m) : M (BitVec m) :=
  signedSaturation m (a.signExtend (m + 1) + b.signExtend (m + 1))

/-- `VV_VSSUBU`. -/
def vssubu (a b : BitVec m) : M (BitVec m) :=
  if a.toNat < b.toNat then pure 0#m
  else unsignedSaturation m (a.setWidth (m + 1) - b.setWidth (m + 1))

/-- `VV_VSSUB`. -/
def vssub (a b : BitVec m) : M (BitVec m) :=
  signedSaturation m (a.signExtend (m + 1) - b.signExtend (m + 1))

/-- `VV_VSMUL`. -/
def vsmul (a b : BitVec m) : M (BitVec m) := do
  let resultMul := toBits (m * 2) (a.toInt * b.toInt)
  let incr ← getFixedRoundingIncr resultMul (m - 1)
  let resultWide := resultMul >>> (m - 1) + incr.setWidth (m * 2)
  signedSaturation m (slice resultWide 0 (m + 1))

/-! ## Shifts -/

/-- An arithmetic right shift, through a value of twice the width. -/
def shiftRightArith (v : BitVec m) (shift : ℕ) : BitVec m :=
  slice (v.signExtend (m * 2) >>> shift) 0 m

/-- `VV_VSLL`. -/
def vsll {n : ℕ} (a : BitVec m) (b : BitVec n) : M (BitVec m) := do
  let shift ← getShiftAmount b m
  pure (a <<< shift)

/-- `VV_VSRL`. -/
def vsrl {n : ℕ} (a : BitVec m) (b : BitVec n) : M (BitVec m) := do
  let shift ← getShiftAmount b m
  pure (a >>> shift)

/-- `VV_VSRA`. -/
def vsra {n : ℕ} (a : BitVec m) (b : BitVec n) : M (BitVec m) := do
  let shift ← getShiftAmount b m
  pure (shiftRightArith a shift)

/-- `VV_VSSRL`. -/
def vssrl {n : ℕ} (a : BitVec m) (b : BitVec n) : M (BitVec m) := do
  let shift ← getShiftAmount b m
  let incr ← getFixedRoundingIncr a shift
  pure (a >>> shift + incr.setWidth m)

/-- `VV_VSSRA`. -/
def vssra {n : ℕ} (a : BitVec m) (b : BitVec n) : M (BitVec m) := do
  let shift ← getShiftAmount b m
  let incr ← getFixedRoundingIncr a shift
  pure (shiftRightArith a shift + incr.setWidth m)

/-! ## Narrowing -/

/-- `NVS_VNSRL`: the shifted element has the width `o`. -/
def vnsrl {o n : ℕ} (m : ℕ) (a : BitVec o) (b : BitVec n) : M (BitVec m) := do
  let shift ← getShiftAmount b o
  pure (slice (a >>> shift) 0 m)

/-- `NVS_VNSRA`. -/
def vnsra {o n : ℕ} (m : ℕ) (a : BitVec o) (b : BitVec n) : M (BitVec m) := do
  let shift ← getShiftAmount b o
  pure (slice (shiftRightArith a shift) 0 m)

/-- `NV_VNCLIPU`. -/
def vnclipu {o n : ℕ} (m : ℕ) (a : BitVec o) (b : BitVec n) : M (BitVec m) := do
  let shift ← getShiftAmount b o
  let incr ← getFixedRoundingIncr a shift
  unsignedSaturation m (a >>> shift + incr.setWidth o)

/-- `NV_VNCLIP`. -/
def vnclip {o n : ℕ} (m : ℕ) (a : BitVec o) (b : BitVec n) : M (BitVec m) := do
  let shift ← getShiftAmount b o
  let incr ← getFixedRoundingIncr a shift
  signedSaturation m (slice (a.signExtend (m * 4) >>> shift) 0 o + incr.setWidth o)

/-! ## Averages, products, quotients -/

/-- The average of a sum or a difference of one bit more. -/
def average (result : BitVec (m + 1)) : M (BitVec m) := do
  let incr ← getFixedRoundingIncr result 1
  pure (slice (result >>> 1) 0 m + incr.setWidth m)

/-- `MVV_VAADDU`. -/
def vaaddu (a b : BitVec m) : M (BitVec m) := average (a.setWidth (m + 1) + b.setWidth (m + 1))

/-- `MVV_VAADD`. -/
def vaadd (a b : BitVec m) : M (BitVec m) := average (a.signExtend (m + 1) + b.signExtend (m + 1))

/-- `MVV_VASUBU`. -/
def vasubu (a b : BitVec m) : M (BitVec m) := average (a.setWidth (m + 1) - b.setWidth (m + 1))

/-- `MVV_VASUB`. -/
def vasub (a b : BitVec m) : M (BitVec m) := average (a.signExtend (m + 1) - b.signExtend (m + 1))

/-- `MVV_VDIVU`. -/
def vdivu (a b : BitVec m) : BitVec m :=
  toBits m (if b.toNat = 0 then -1 else Int.tdiv a.toNat b.toNat)

/-- `MVV_VDIV`. -/
def vdiv (a b : BitVec m) : BitVec m :=
  let elemMax : ℤ := 2 ^ (m - 1) - 1
  let elemMin : ℤ := 0 - 2 ^ (m - 1)
  let q := if b.toInt = 0 then -1 else Int.tdiv a.toInt b.toInt
  toBits m (if q > elemMax then elemMin else q)

/-- `MVV_VREMU`. -/
def vremu (a b : BitVec m) : BitVec m :=
  toBits m (if b.toNat = 0 then (a.toNat : ℤ) else Int.tmod a.toNat b.toNat)

/-- `MVV_VREM`. -/
def vrem (a b : BitVec m) : BitVec m :=
  toBits m (if b.toInt = 0 then a.toInt else Int.tmod a.toInt b.toInt)

end

/-! ## Operands -/

/-- The configuration that an instruction reads: the exponent of the element width, that of
the group multiplier, and the number of elements. -/
structure VConf where
  sewPow : ℕ
  lmul : ℤ
  n : ℕ

namespace VConf

/-- `SEW`. -/
def sew (c : VConf) : ℕ := 2 ^ c.sewPow

/-- The configuration with elements of twice the width. -/
def widen (c : VConf) : VConf := ⟨c.sewPow + 1, c.lmul + 1, c.n⟩

/-- The configuration with elements of the `2 ^ k`-th part of the width. -/
def narrow (c : VConf) (k : ℕ) : VConf := ⟨c.sewPow - k, c.lmul - k, c.n⟩

/-- `2 ^ (LMUL_pow + VLEN_pow - SEW_pow)`. -/
def vlmax (c : VConf) : ℕ := 2 ^ (c.lmul + vlenPow - c.sewPow).toNat

/-- The elements of a register group. -/
def group (c : VConf) (r : Regidx) : M (ℕ → BitVec c.sew) := readVreg c.n c.sew c.lmul r

/-- A scalar register as an element. -/
def scalar (c : VConf) (rs1 : Regidx) : M (BitVec c.sew) := getScalar rs1 c.sew

/-- A sign-extended immediate as an element. -/
def imm (c : VConf) (simm : BitVec 5) : M (BitVec c.sew) := pure (simm.signExtend c.sew)

end VConf

/-- The vector, scalar or immediate operand of a clause, as a vector. -/
abbrev Src1 := (c : VConf) → M (ℕ → BitVec c.sew)

/-- A register group as an operand. -/
def srcV (vs1 : Regidx) : Src1 := fun c => c.group vs1

/-- A scalar register as an operand. -/
def srcX (rs1 : Regidx) : Src1 := fun c => do
  let v ← c.scalar rs1
  pure fun _ => v

/-- An immediate as an operand. -/
def srcI (simm : BitVec 5) : Src1 := fun c => do
  let v ← c.imm simm
  pure fun _ => v

/-- An element without side effects. -/
def just {α : Type} (a : α) : M (Option α) := pure (some a)

/-- The configuration in force. -/
def vconf : M VConf := do
  let sewPow ← getSewPow
  let lmul ← getLmulPow
  let n ← getNumElem lmul (2 ^ sewPow)
  pure ⟨sewPow, lmul, n⟩

end SailRiscv
