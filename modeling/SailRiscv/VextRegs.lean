/-
# The vector configuration and the vector registers

The fields of `vtype` (`riscv_sys_regs.sail`, `riscv_vlen.sail`) and the accessors of the
vector registers (`riscv_vext_regs.sail`).  A vector of `n` elements of `m` bits is a function
`ℕ → BitVec m`, of which the values below `n` are meant.
-/
import SailRiscv.Insts.Common

namespace SailRiscv

open Bits Platform

variable [Platform]

/-! ## The configuration -/

/-- `get_elen_pow`. -/
def elenPow : ℕ := sysVectorElenExp

/-- `get_vlen_pow`. -/
def vlenPow : ℕ := sysVectorVlenExp

/-- `VLEN`. -/
def VLEN : ℕ := 2 ^ vlenPow

/-- The exponent of the element width that `vsew` selects. -/
def sewPow (vsew : BitVec 3) : Option ℕ :=
  if vsew = 0b000#3 then some 3
  else if vsew = 0b001#3 then some 4
  else if vsew = 0b010#3 then some 5
  else if vsew = 0b011#3 then some 6
  else none

/-- The exponent of the group multiplier that `vlmul` selects. -/
def lmulPow (vlmul : BitVec 3) : Option ℤ :=
  if vlmul = 0b101#3 then some (-3)
  else if vlmul = 0b110#3 then some (-2)
  else if vlmul = 0b111#3 then some (-1)
  else if vlmul = 0b000#3 then some 0
  else if vlmul = 0b001#3 then some 1
  else if vlmul = 0b010#3 then some 2
  else if vlmul = 0b011#3 then some 3
  else none

/-- The value of an encoding that is asserted not to be reserved. -/
def orAssert {α : Type} (v : Option α) (msg : String) : Except ModelError α :=
  v.elim (.error (.assertFailed msg)) .ok

/-- `get_sew_pow`. -/
def getSewPow : M ℕ :=
  Exec.checks (fun s => orAssert (sewPow (Vtype.vsew.get s.vtype)) "invalid vsew field in vtype")

/-- `get_sew`. -/
def getSew : M ℕ := do
  let pow ← getSewPow
  pure (2 ^ pow)

/-- `get_lmul_pow`. -/
def getLmulPow : M ℤ :=
  Exec.checks (fun s =>
    orAssert (lmulPow (Vtype.vlmul.get s.vtype)) "invalid vlmul field in vtype")

/-- `get_sew_pow` completes when `vsew` is not reserved. -/
theorem run_getSewPow_ok {s s' : State} {p : ℕ} :
    getSewPow.run s = .ok (p, s') ↔ sewPow (Vtype.vsew.get s.vtype) = some p ∧ s' = s := by
  unfold getSewPow
  rw [Exec.run_checks_ok]
  cases sewPow (Vtype.vsew.get s.vtype) <;> simp [orAssert]

/-- `get_lmul_pow` completes when `vlmul` is not reserved. -/
theorem run_getLmulPow_ok {s s' : State} {p : ℤ} :
    getLmulPow.run s = .ok (p, s') ↔ lmulPow (Vtype.vlmul.get s.vtype) = some p ∧ s' = s := by
  unfold getLmulPow
  rw [Exec.run_checks_ok]
  cases lmulPow (Vtype.vlmul.get s.vtype) <;> simp [orAssert]

omit [Platform] in
/-- An element width is between 8 and 64 bits. -/
theorem sewPow_bounds {v : BitVec 3} {p : ℕ} (h : sewPow v = some p) : 3 ≤ p ∧ p ≤ 6 := by
  revert v
  have hall : ∀ v : BitVec 3, ∀ q ∈ sewPow v, 3 ≤ q ∧ q ≤ 6 := by decide
  intro v h
  exact hall v p h

omit [Platform] in
/-- A group multiplier is between 1/8 and 8. -/
theorem lmulPow_bounds {v : BitVec 3} {p : ℤ} (h : lmulPow v = some p) : -3 ≤ p ∧ p ≤ 3 := by
  have hall : ∀ v : BitVec 3, ∀ q ∈ lmulPow v, -3 ≤ q ∧ q ≤ 3 := by decide
  exact hall v p h

/-! ## Registers -/

/-- `vregtype`: the width of a vector register in the model. -/
abbrev Vregtype := BitVec 65536

/-- `vlenmax`. -/
def vlenmax : ℕ := 65536

/-- `rV_bits` on states. -/
def State.V (s : State) (r : Regidx) : Vregtype := s.v r.toFin

/-- `rV_bits`. -/
def rV (r : Regidx) : M Vregtype := Exec.reads (fun s => s.V r)

/-- `wV_bits`. -/
def wV (r : Regidx) (v : Vregtype) : M Unit := do
  Exec.update (fun s => { s with v := Function.update s.v r.toFin v })
  dirtyVContext
  assert (decide (0 < VLEN ∧ VLEN ≤ vlenmax)) "0 < VLEN & VLEN <= sizeof(vlenmax)"

/-! ## Register groups -/

/-- The number of registers of a group: fractional groups take one. -/
def groupRegs (lmul : ℤ) : ℕ := 2 ^ lmul.toNat

/-- `get_num_elem`: the elements of a group, those of a whole register when it is
fractional. -/
def getNumElem (lmul : ℤ) (SEW : ℕ) : M ℕ := do
  let numElem := groupRegs lmul * VLEN / SEW
  assert (decide (numElem > 0)) "num_elem > 0"
  pure numElem

/-- `read_single_vreg`. -/
def readSingleVreg (numElem SEW : ℕ) (vrid : Regidx) : M (ℕ → BitVec SEW) := do
  let bv ← rV vrid
  assert (decide (8 ≤ SEW ∧ SEW ≤ 64)) "8 <= SEW & SEW <= 64"
  pure fun i => if i < numElem then bits bv (i * SEW) SEW else BitVec.ofNat SEW 0

/-- `write_single_vreg`. -/
def writeSingleVreg (numElem SEW : ℕ) (vrid : Regidx) (v : ℕ → BitVec SEW) : M Unit := do
  assert (decide (8 ≤ SEW ∧ SEW ≤ 64)) "8 <= SEW & SEW <= 64"
  wV vrid (forDown numElem 0#_ fun i r => r <<< SEW ||| (v i).setWidth _)

/-- Register `i` of the group that starts at `vrid`. -/
def groupReg (vrid : Regidx) (i : ℕ) : Regidx := vrid + BitVec.ofNat 5 i

/-- The assertions on the indices of the elements of register `i` of a group. -/
def assertInGroup (numElem numElemSingle i : ℕ) : M Unit :=
  assert (decide (∀ j < numElemSingle, i * numElemSingle + j < numElem)) "0 <= r_i & r_i < num_elem"

/-- `read_vreg`. -/
def readVreg (numElem SEW : ℕ) (lmul : ℤ) (vrid : Regidx) : M (ℕ → BitVec SEW) := do
  assert (decide (vrid.toNat + groupRegs lmul ≤ 32))
    "invalid register group: vrid overflow the largest number"
  assert (decide (vrid.toNat % groupRegs lmul = 0))
    "invalid register group: vrid is not a multiple of EMUL"
  if lmul < 0 then readSingleVreg numElem SEW vrid
  else
    Exec.foreach 0 (groupRegs lmul) (fun _ => BitVec.ofNat SEW 0) fun iLmul result => do
      let numElemSingle := VLEN / SEW
      let single ← readSingleVreg numElemSingle SEW (groupReg vrid iLmul)
      assertInGroup numElem numElemSingle iLmul
      let start := iLmul * numElemSingle
      pure fun i =>
        if start ≤ i ∧ i < start + numElemSingle then single (i - start) else result i

/-- `write_vreg`. -/
def writeVreg (numElem SEW : ℕ) (lmul : ℤ) (vrid : Regidx) (vec : ℕ → BitVec SEW) : M Unit :=
  Exec.foreach 0 (groupRegs lmul) () fun iLmul _ => do
    let numElemSingle := VLEN / SEW
    assertInGroup numElem numElemSingle iLmul
    writeSingleVreg numElemSingle SEW (groupReg vrid iLmul)
      (fun i => vec (iLmul * numElemSingle + i))

/-! ## Single elements -/

/-- An integer division; the divisor 0 is an error. -/
def divOrError (n d : ℕ) : M ℕ :=
  if d = 0 then internalError "division by zero" else pure (n / d)

/-- `read_single_element`. -/
def readSingleElement (EEW index : ℕ) (vrid : Regidx) : M (BitVec EEW) := do
  assert (decide (VLEN ≥ EEW)) "VLEN >= EEW"
  let elemPerReg := VLEN / EEW
  let field ← divOrError index elemPerReg
  let vals ← readSingleVreg elemPerReg EEW (groupReg vrid field)
  pure (vals (index % elemPerReg))

/-- `write_single_element`. -/
def writeSingleElement (EEW index : ℕ) (vrid : Regidx) (value : BitVec EEW) : M Unit := do
  let elemPerReg := VLEN / EEW
  let field ← divOrError index elemPerReg
  let vals ← readSingleVreg elemPerReg EEW (groupReg vrid field)
  wV (groupReg vrid field) (forDown elemPerReg 0#_ fun i r =>
    r <<< EEW ||| (if i = index % elemPerReg then value else vals i).setWidth _)

/-! ## Masks -/

/-- `read_vmask`: without a mask all elements are active. -/
def readVmask (numElem : ℕ) (vm : BitVec 1) (vrid : Regidx) : M (ℕ → Bool) := do
  assert (decide (numElem ≤ vlenmax)) "num_elem <= sizeof(vlenmax)"
  let v ← rV vrid
  pure fun i => vm == 1#1 || v.getLsbD i

/-- `read_vmask_carry`: without a mask there are no carries. -/
def readVmaskCarry (numElem : ℕ) (vm : BitVec 1) (vrid : Regidx) : M (ℕ → Bool) := do
  assert (decide (numElem ≤ vlenmax)) "num_elem <= sizeof(vlenmax)"
  let v ← rV vrid
  pure fun i => vm != 1#1 && v.getLsbD i

/-- `write_vmask`; the elements of the tail are left alone. -/
def writeVmask (numElem : ℕ) (vrid : Regidx) (v : ℕ → Bool) : M Unit := do
  assert (decide (0 < VLEN ∧ VLEN ≤ vlenmax)) "0 < VLEN & VLEN <= sizeof(vlenmax)"
  assert (decide (0 < numElem ∧ numElem ≤ VLEN)) "0 < num_elem & num_elem <= VLEN"
  let old ← rV vrid
  wV vrid (forUp VLEN 0#_ fun i r =>
    setBit r i (if i < numElem then v i else old.getLsbD i))

end SailRiscv
