/-
# What the vector instructions share

`riscv_insts_vext_utils.sail`: the checks for illegal instructions, the elements that an
instruction acts on, rounding and saturation.
-/
import SailRiscv.VextRegs

namespace SailRiscv

open Bits Platform

variable [Platform]

/-! ## Legal configurations and registers -/

/-- `valid_eew_emul`. -/
def validEewEmul (EEW : ℕ) (EMUL : ℤ) : Bool :=
  decide (EEW ≥ 8 ∧ EEW ≤ 2 ^ elenPow ∧ EMUL ≥ -3 ∧ EMUL ≤ 3)

/-- `valid_vtype`. -/
def validVtype (s : State) : Bool := Vtype.vill.get s.vtype == 0#1

/-- `assert_vstart`. -/
def assertVstart (s : State) (i : ℕ) : Bool := s.vstart.toNat == i

/-- `valid_rd_mask`: a masked instruction does not overwrite the mask. -/
def validRdMask (rd : Regidx) (vm : BitVec 1) : Bool := vm != 0#1 || rd != 0b00000#5

/-- `valid_reg_overlap`. -/
def validRegOverlap (rs rd : Regidx) (EMULrs EMULrd : ℤ) : Bool :=
  let rsGroup := if EMULrs > 0 then groupRegs EMULrs else 1
  let rdGroup := if EMULrd > 0 then groupRegs EMULrd else 1
  let rsInt := rs.toNat
  let rdInt := rd.toNat
  if EMULrs < EMULrd then
    decide (rsInt + rsGroup ≤ rdInt) || decide (rsInt ≥ rdInt + rdGroup)
      || (decide (rsInt + rsGroup = rdInt + rdGroup) && decide (EMULrs ≥ 0))
  else if EMULrs > EMULrd then
    decide (rdInt ≤ rsInt) || decide (rdInt ≥ rsInt + rsGroup)
  else true

/-- `valid_segment`: a segment access takes at most eight registers. -/
def validSegment (nf : ℕ) (EMUL : ℤ) : Bool :=
  if EMUL < 0 then decide (nf / 2 ^ (-EMUL).toNat ≤ 8) else decide (nf * 2 ^ EMUL.toNat ≤ 8)

/-! ## Illegal instructions -/

/-- `illegal_normal`. -/
def illegalNormal (s : State) (vd : Regidx) (vm : BitVec 1) : Bool :=
  !validVtype s || !validRdMask vd vm

/-- `illegal_vd_masked`. -/
def illegalVdMasked (s : State) (vd : Regidx) : Bool := !validVtype s || vd == 0b00000#5

/-- `illegal_vd_unmasked`. -/
def illegalVdUnmasked (s : State) : Bool := !validVtype s

/-- `illegal_variable_width`. -/
def illegalVariableWidth (s : State) (vd : Regidx) (vm : BitVec 1) (SEW : ℕ) (LMUL : ℤ) : Bool :=
  !validVtype s || !validRdMask vd vm || !validEewEmul SEW LMUL

/-- `illegal_reduction`. -/
def illegalReduction (s : State) : Bool := !validVtype s || !assertVstart s 0

/-- `illegal_reduction_widen`. -/
def illegalReductionWiden (s : State) (SEW : ℕ) (LMUL : ℤ) : Bool :=
  !validVtype s || !assertVstart s 0 || !validEewEmul SEW LMUL

/-- `illegal_load`. -/
def illegalLoad (s : State) (vd : Regidx) (vm : BitVec 1) (nf EEW : ℕ) (EMUL : ℤ) : Bool :=
  !validVtype s || !validRdMask vd vm || !validEewEmul EEW EMUL || !validSegment nf EMUL

/-- `illegal_store`. -/
def illegalStore (s : State) (nf EEW : ℕ) (EMUL : ℤ) : Bool :=
  !validVtype s || !validEewEmul EEW EMUL || !validSegment nf EMUL

/-- `illegal_indexed_load`. -/
def illegalIndexedLoad (s : State) (vd : Regidx) (vm : BitVec 1) (nf EEWindex : ℕ)
    (EMULindex EMULdata : ℤ) : Bool :=
  !validVtype s || !validRdMask vd vm || !validEewEmul EEWindex EMULindex
    || !validSegment nf EMULdata

/-- `illegal_indexed_store`. -/
def illegalIndexedStore (s : State) (nf EEWindex : ℕ) (EMULindex EMULdata : ℤ) : Bool :=
  !validVtype s || !validEewEmul EEWindex EMULindex || !validSegment nf EMULdata

/-- `if c then { handle_illegal(); return RETIRE_FAIL }`, and the rest of the clause. -/
def orIllegal (c : State → Bool) (k : M Retired) : M Retired := do
  if ← Exec.reads c then illegal else k

/-! ## Scalars and the range of elements -/

/-- `get_scalar`. -/
def getScalar (rs1 : Regidx) (SEW : ℕ) : M (BitVec SEW) := do
  let v ← rX rs1
  pure (if SEW ≤ xlen then v.setWidth SEW else v.signExtend SEW)

/-- The check in `get_start_element`: an index that no element can have is illegal. -/
def checkStart (startElement sewPow : ℕ) : M Unit :=
  if startElement > 2 ^ (3 + vlenPow - sewPow) - 1 then handleIllegal else pure ()

/-- `get_start_element`; it goes on after an illegal instruction. -/
def getStartElement : M ℕ := do
  let startElement ← Exec.reads (fun s => s.vstart.toNat)
  let sewPow ← getSewPow
  checkStart startElement sewPow
  pure startElement

/-- `get_end_element`. -/
def getEndElement : M ℤ := Exec.reads (fun s => s.vl.toNat - 1)

/-- The number of elements of a group, which is less than that of a whole register when it
is fractional. -/
def realNumElem (numElem : ℕ) (lmul : ℤ) : ℕ :=
  if lmul ≥ 0 then numElem else numElem / 2 ^ (-lmul).toNat

/-- The elements of the body: from `vstart` on and below `vl` and the end of the group. -/
def inBody (numElem : ℕ) (lmul : ℤ) (start : ℕ) (last : ℤ) (i : ℕ) : Bool :=
  decide (start ≤ i ∧ (i : ℤ) ≤ last ∧ i < realNumElem numElem lmul)

/-- The elements of the body, of `numElem` elements of a group. -/
def bodyOf (numElem : ℕ) (lmul : ℤ) : M (ℕ → Bool) := do
  let start ← getStartElement
  let last ← getEndElement
  assert (decide (numElem ≥ realNumElem numElem lmul)) "num_elem >= real_num_elem"
  pure (inBody numElem lmul start last)

/-- `init_masked_result`.  The elements that are not active keep their value, whether they
are undisturbed or agnostic. -/
def initMaskedResult {α : Type} (numElem : ℕ) (lmul : ℤ) (vdVal : ℕ → α) (vmVal : ℕ → Bool) :
    M ((ℕ → α) × (ℕ → Bool)) := do
  let body ← bodyOf numElem lmul
  pure (vdVal, fun i => body i && vmVal i)

/-- `init_masked_source`. -/
def initMaskedSource (numElem : ℕ) (lmul : ℤ) (vmVal : ℕ → Bool) : M (ℕ → Bool) := do
  let body ← bodyOf numElem lmul
  pure fun i => body i && vmVal i

/-- `init_masked_result_carry`. -/
def initMaskedResultCarry (numElem : ℕ) (lmul : ℤ) (vdVal : ℕ → Bool) :
    M ((ℕ → Bool) × (ℕ → Bool)) := do
  let body ← bodyOf numElem lmul
  pure (vdVal, body)

/-- `init_masked_result_cmp`. -/
def initMaskedResultCmp (numElem : ℕ) (lmul : ℤ) (vdVal vmVal : ℕ → Bool) :
    M ((ℕ → Bool) × (ℕ → Bool)) :=
  initMaskedResult numElem lmul vdVal vmVal

/-! ## Rounding and saturation -/

/-- `slice`. -/
def slice {n : ℕ} (v : BitVec n) (start len : ℕ) : BitVec len := v.extractLsb' start len

/-- `get_shift_amount`. -/
def getShiftAmount {n : ℕ} (v : BitVec n) (SEW : ℕ) : M ℕ := do
  assert (decide (0 < SEW.log2 ∧ SEW.log2 < n)) "0 < lowlog2bits & lowlog2bits < 'n"
  pure (slice v 0 SEW.log2).toNat

/-- `get_fixed_rounding_incr` for the rounding mode `vxrm`. -/
def fixedRoundingIncr {m : ℕ} (vxrm : BitVec 2) (v : BitVec m) (shift : ℕ) : BitVec 1 :=
  if shift = 0 then 0#1
  else if vxrm = 0b00#2 then slice v (shift - 1) 1
  else if vxrm = 0b01#2 then
    boolToBits (slice v (shift - 1) 1 == 1#1
      && (slice v 0 (shift - 1) != 0#_ || slice v shift 1 == 1#1))
  else if vxrm = 0b10#2 then 0#1
  else boolToBits (!(slice v shift 1 == 1#1) && slice v 0 shift != 0#_)

/-- `get_fixed_rounding_incr`. -/
def getFixedRoundingIncr {m : ℕ} (v : BitVec m) (shift : ℕ) : M (BitVec 1) :=
  Exec.reads (fun s => fixedRoundingIncr (Vcsr.vxrm.get s.vcsr) v shift)

/-- `vcsr[vxsat] = 0b1`. -/
def setVxsat : M Unit :=
  Exec.update (fun s => { s with vcsr := Vcsr.vxsat.set s.vcsr 1#1 })

/-- `unsigned_saturation`. -/
def unsignedSaturation (m : ℕ) {n : ℕ} (elem : BitVec n) : M (BitVec m) :=
  if elem.toNat > (BitVec.allOnes m).toNat then do
    setVxsat
    pure (BitVec.allOnes m)
  else pure (elem.setWidth m)

/-- `0b0 @ ones('m - 1)`. -/
def signedMax (m : ℕ) : BitVec m := (BitVec.allOnes (m - 1)).setWidth m

/-- `0b1 @ zeros('m - 1)`. -/
def signedMin (m : ℕ) : BitVec m := ~~~signedMax m

/-- `signed_saturation`. -/
def signedSaturation (m : ℕ) {n : ℕ} (elem : BitVec n) : M (BitVec m) :=
  if elem.toInt > (signedMax m).toInt then do
    setVxsat
    pure (signedMax m)
  else if elem.toInt < (signedMin m).toInt then do
    setVxsat
    pure (signedMin m)
  else pure (elem.setWidth m)

/-! ## Element-wise instructions -/

/-- `vstart = zeros(); RETIRE_SUCCESS`. -/
def endVector : M Retired := do
  Exec.update (fun s => { s with vstart := 0#16 })
  pure .RETIRE_SUCCESS

/-- A value at which the loop over the elements goes on. -/
def value {α : Type} (m : M α) : M (Option α) := do
  let a ← m
  pure (some a)

/-- The loop over the active elements of `result`; `none` is an illegal element. -/
def forActive {α : Type} (numElem : ℕ) (mask : ℕ → Bool) (result : ℕ → α)
    (elem : ℕ → M (Option α)) : M (Option (ℕ → α)) :=
  Exec.foreachTry 0 numElem result fun i r =>
    if mask i then do
      let v ← elem i
      pure (v.map (Function.update r i))
    else pure (some r)

/-- `none` ends the clause as an illegal instruction. -/
def onValue {α : Type} (r : Option α) (k : α → M Retired) : M Retired :=
  match r with
  | none => illegal
  | some a => k a

/-- The end of a clause that computes the active elements of the group `vd` one by one. -/
def writeElems (numElem SEW : ℕ) (lmul : ℤ) (vd : Regidx) (vdVal : ℕ → BitVec SEW)
    (vmVal : ℕ → Bool) (elem : ℕ → M (Option (BitVec SEW))) : M Retired := do
  let init ← initMaskedResult numElem lmul vdVal vmVal
  onValue (← forActive numElem init.2 init.1 elem) fun result => do
    writeVreg numElem SEW lmul vd result
    endVector

/-- The end of a clause that computes the active elements of a mask. -/
def writeMaskElems (numElem : ℕ) (vd : Regidx) (init : M ((ℕ → Bool) × (ℕ → Bool)))
    (elem : ℕ → Bool) : M Retired := do
  let init ← init
  writeVmask numElem vd (fun i => if init.2 i then elem i else init.1 i)
  endVector

end SailRiscv
