/-
# What the vector floating-point instructions share

`riscv_insts_vext_fp_utils.sail`.  A function of the source that matches on the width of an
element has the format of the element as a parameter here.
-/
import SailRiscv.FdextRegs
import SailRiscv.VextElems

namespace SailRiscv

open Bits Platform

variable [Platform]

/-! ## Illegal instructions -/

/-- `valid_fp_op`. -/
def validFpOp (SEW : ℕ) (rm : BitVec 3) : Bool :=
  decide (SEW ≥ 16 ∧ SEW ≤ 128) && !(rm == 0b101#3 || rm == 0b110#3 || rm == 0b111#3)

/-- `illegal_fp_normal`. -/
def illegalFpNormal (s : State) (vd : Regidx) (vm : BitVec 1) (SEW : ℕ) (rm : BitVec 3) : Bool :=
  !validVtype s || !validRdMask vd vm || !validFpOp SEW rm

/-- `illegal_fp_vd_masked`. -/
def illegalFpVdMasked (s : State) (vd : Regidx) (SEW : ℕ) (rm : BitVec 3) : Bool :=
  !validVtype s || vd == 0b00000#5 || !validFpOp SEW rm

/-- `illegal_fp_vd_unmasked`. -/
def illegalFpVdUnmasked (s : State) (SEW : ℕ) (rm : BitVec 3) : Bool :=
  !validVtype s || !validFpOp SEW rm

/-- `illegal_fp_variable_width`. -/
def illegalFpVariableWidth (s : State) (vd : Regidx) (vm : BitVec 1) (SEW : ℕ) (rm : BitVec 3)
    (SEWnew : ℕ) (LMULnew : ℤ) : Bool :=
  !validVtype s || !validRdMask vd vm || !validFpOp SEW rm || !validEewEmul SEWnew LMULnew

/-- `illegal_fp_reduction`. -/
def illegalFpReduction (s : State) (SEW : ℕ) (rm : BitVec 3) : Bool :=
  !validVtype s || !assertVstart s 0 || !validFpOp SEW rm

/-- `illegal_fp_reduction_widen`. -/
def illegalFpReductionWiden (s : State) (SEW : ℕ) (rm : BitVec 3) (SEWwiden : ℕ)
    (LMULwiden : ℤ) : Bool :=
  !validVtype s || !assertVstart s 0 || !validFpOp SEW rm || !validEewEmul SEWwiden LMULwiden

/-! ## Formats of elements -/

/-- `fcsr[FRM]`. -/
def getFrm : M (BitVec 3) := Exec.reads (fun s => Fcsr.FRM.get s.fcsr)

/-- `assert(SEW != 8)`, and the rest of the clause for the format of the elements. -/
def onFormat (c : VConf) (k : FpFormat → M Retired) : M Retired :=
  if c.sewPow = 4 then k .H
  else if c.sewPow = 5 then k .S
  else if c.sewPow = 6 then k .D
  else Exec.abort (.assertFailed "SEW != 8")

/-- The format of twice the width; there is none for doubles. -/
def FpFormat.widen : FpFormat → FpFormat
  | .H => .S
  | .S => .D
  | .D => .D

/-- `assert(SEW >= 16 & SEW_widen <= 64)`, and the rest of the clause for the format of the
elements. -/
def onNarrowFormat (c : VConf) (k : FpFormat → M Retired) : M Retired :=
  if c.sewPow = 4 then k .H
  else if c.sewPow = 5 then k .S
  else Exec.abort (.assertFailed "SEW >= 16 & SEW_widen <= 64")

/-- `get_scalar_fp`. -/
def getScalarFp (rs1 : Regidx) (f : FpFormat) : M (BitVec f.width) := do
  assert (decide (flen ≥ f.width)) "invalid vector floating-point type width: FLEN < SEW"
  rFp f rs1

/-! ## Operations on elements -/

/-- An operation that raises flags. -/
def accrued {α : Type} (r : Fflags × α) : M α := do
  accrueFflags r.1
  pure r.2

section Operations

variable [SoftFloat] {f : FpFormat}

/-- `fp_add`. -/
def fpAdd (rm : BitVec 3) (a b : BitVec f.width) : M (BitVec f.width) :=
  accrued (SoftFloat.add f rm a b)

/-- `fp_sub`. -/
def fpSub (rm : BitVec 3) (a b : BitVec f.width) : M (BitVec f.width) :=
  accrued (SoftFloat.sub f rm a b)

/-- `fp_mul`. -/
def fpMul (rm : BitVec 3) (a b : BitVec f.width) : M (BitVec f.width) :=
  accrued (SoftFloat.mul f rm a b)

/-- `fp_div`. -/
def fpDiv (rm : BitVec 3) (a b : BitVec f.width) : M (BitVec f.width) :=
  accrued (SoftFloat.div f rm a b)

/-- The value of `fp_min`, `lt` telling whether `a` is less than `b`. -/
def fpMinValue (lt : Bool) (a b : BitVec f.width) : BitVec f.width :=
  if fIsNaN a && fIsNaN b then canonicalNaN f
  else if fIsNaN a then b
  else if fIsNaN b then a
  else if fIsNegZero a && fIsPosZero b then a
  else if fIsNegZero b && fIsPosZero a then b
  else if lt then a else b

/-- The value of `fp_max`, `lt` telling whether `a` is less than `b`. -/
def fpMaxValue (lt : Bool) (a b : BitVec f.width) : BitVec f.width :=
  if fIsNaN a && fIsNaN b then canonicalNaN f
  else if fIsNaN a then b
  else if fIsNaN b then a
  else if fIsNegZero a && fIsPosZero b then b
  else if fIsNegZero b && fIsPosZero a then a
  else if lt then b else a

/-- `fp_min`. -/
def fpMin (a b : BitVec f.width) : M (BitVec f.width) :=
  let r := SoftFloat.ltQuiet f a b
  accrued (r.1, fpMinValue r.2 a b)

/-- `fp_max`. -/
def fpMax (a b : BitVec f.width) : M (BitVec f.width) :=
  let r := SoftFloat.ltQuiet f a b
  accrued (r.1, fpMaxValue r.2 a b)

/-- `fp_eq`. -/
def fpEq (a b : BitVec f.width) : M Bool := accrued (SoftFloat.eq f a b)

/-- `fp_lt`. -/
def fpLt (a b : BitVec f.width) : M Bool := accrued (SoftFloat.lt f a b)

/-- `fp_le`. -/
def fpLe (a b : BitVec f.width) : M Bool := accrued (SoftFloat.le f a b)

/-- The negation of a comparison, which is false for operands without order. -/
def unlessInvalid (r : Fflags × Bool) : Fflags × Bool :=
  (r.1, if r.1 = 0b10000#5 then false else !r.2)

/-- `fp_gt`. -/
def fpGt (a b : BitVec f.width) : M Bool := accrued (unlessInvalid (SoftFloat.le f a b))

/-- `fp_ge`. -/
def fpGe (a b : BitVec f.width) : M Bool := accrued (unlessInvalid (SoftFloat.lt f a b))

/-- `fp_muladd`. -/
def fpMuladd (rm : BitVec 3) (a b c : BitVec f.width) : M (BitVec f.width) :=
  accrued (SoftFloat.mulAdd f rm a b c)

/-- `fp_nmuladd`. -/
def fpNmuladd (rm : BitVec 3) (a b c : BitVec f.width) : M (BitVec f.width) :=
  accrued (SoftFloat.mulAdd f rm (fnegate a) b c)

/-- `fp_mulsub`. -/
def fpMulsub (rm : BitVec 3) (a b c : BitVec f.width) : M (BitVec f.width) :=
  accrued (SoftFloat.mulAdd f rm a b (fnegate c))

/-- `fp_nmulsub`. -/
def fpNmulsub (rm : BitVec 3) (a b c : BitVec f.width) : M (BitVec f.width) :=
  accrued (SoftFloat.mulAdd f rm (fnegate a) b (fnegate c))

/-- `fp_widen`. -/
def fpWiden (a : BitVec f.width) : M (BitVec f.widen.width) := do
  let rm ← getFrm
  accrued (SoftFloat.convert f f.widen rm a)

/-! ## Conversions to narrow integers -/

/-- `riscv_f16ToI16`, `riscv_f16ToI8` and `riscv_f32ToI16`. -/
def toINarrow (f : FpFormat) (n : ℕ) (rm : BitVec 3) (v : BitVec f.width) : Fflags × BitVec n :=
  let sig32 := (SoftFloat.toI f 32 rm v).2
  if sig32.toInt > (signedMax n).toInt then (nvFlag, signedMax n)
  else if sig32.toInt < (signedMin n).toInt then (nvFlag, signedMin n)
  else (0#5, sig32.extractLsb' 0 n)

/-- `riscv_f16ToUi16`, `riscv_f16ToUi8` and `riscv_f32ToUi16`. -/
def toUiNarrow (f : FpFormat) (n : ℕ) (rm : BitVec 3) (v : BitVec f.width) : Fflags × BitVec n :=
  let sig32 := (SoftFloat.toUi f 32 rm v).2
  if sig32.toNat > (BitVec.allOnes n).toNat then (nvFlag, BitVec.allOnes n)
  else (0#5, sig32.extractLsb' 0 n)

/-- A conversion to a signed integer of `n` bits. -/
def vecToI (f : FpFormat) (n : ℕ) (rm : BitVec 3) (v : BitVec f.width) : Fflags × BitVec n :=
  if n < 32 then toINarrow f n rm v else SoftFloat.toI f n rm v

/-- A conversion to an unsigned integer of `n` bits. -/
def vecToUi (f : FpFormat) (n : ℕ) (rm : BitVec 3) (v : BitVec f.width) : Fflags × BitVec n :=
  if n < 32 then toUiNarrow f n rm v else SoftFloat.toUi f n rm v

/-- A conversion from a signed integer, which is extended to 32 bits. -/
def vecOfI {n : ℕ} (f : FpFormat) (rm : BitVec 3) (v : BitVec n) : Fflags × BitVec f.width :=
  if n < 32 then SoftFloat.ofI f 32 rm (v.signExtend 32) else SoftFloat.ofI f n rm v

/-- A conversion from an unsigned integer, which is extended to 32 bits. -/
def vecOfUi {n : ℕ} (f : FpFormat) (rm : BitVec 3) (v : BitVec n) : Fflags × BitVec f.width :=
  if n < 32 then SoftFloat.ofUi f 32 rm (v.setWidth 32) else SoftFloat.ofUi f n rm v

end Operations

/-! ## Estimates with seven bits -/

section Estimates

variable {f : FpFormat}

/-- `count_leadingzeros`. -/
def countLeadingzeros {n : ℕ} (sig : BitVec n) : ℕ :=
  forUp n n fun i acc => if sig.getLsbD i then n - i - 1 else acc

/-- The normalized exponent in `rsqrt7` and `recip7`. -/
def normalizedExp (v : BitVec f.width) (sub : Bool) : BitVec 64 :=
  if sub then BitVec.ofInt 64 (0 - (countLeadingzeros (fmant v) : ℤ)) else (fexp v).setWidth 64

/-- The normalized mantissa in `rsqrt7` and `recip7`. -/
def normalizedSig (v : BitVec f.width) (sub : Bool) : BitVec f.mantWidth :=
  if sub then fmant v <<< (1 + countLeadingzeros (fmant v)) else fmant v

/-- The table of `rsqrt7`. -/
def rsqrt7Table : List ℕ :=
  [52, 51, 50, 48, 47, 46, 44, 43, 42, 41, 40, 39, 38, 36, 35, 34,
    33, 32, 31, 30, 30, 29, 28, 27, 26, 25, 24, 23, 23, 22, 21, 20,
    19, 19, 18, 17, 16, 16, 15, 14, 14, 13, 12, 12, 11, 10, 10, 9,
    9, 8, 7, 7, 6, 6, 5, 4, 4, 3, 3, 2, 2, 1, 1, 0,
    127, 125, 123, 121, 119, 118, 116, 114, 113, 111, 109, 108, 106, 105, 103, 102,
    100, 99, 97, 96, 95, 93, 92, 91, 90, 88, 87, 86, 85, 84, 83, 82,
    80, 79, 78, 77, 76, 75, 74, 73, 72, 71, 70, 70, 69, 68, 67, 66,
    65, 64, 63, 63, 62, 61, 60, 59, 59, 58, 57, 56, 56, 55, 54, 53]

/-- `rsqrt7`. -/
def rsqrt7 (v : BitVec f.width) (sub : Bool) : BitVec f.width :=
  let nexp := normalizedExp v sub
  let idx : BitVec 7 :=
    bits nexp 0 1 ++ bits (normalizedSig v sub) (f.mantWidth - 6) 6
  let outSig := BitVec.ofNat f.mantWidth (rsqrt7Table.getD idx.toNat 0) <<< (f.mantWidth - 7)
  let outExp := BitVec.ofInt f.expWidth ((3 * (2 ^ (f.expWidth - 1) - 1) - 1 - nexp.toInt) / 2)
  fmake (fsign v) outExp outSig

/-- The infinity with a sign. -/
def finf (f : FpFormat) (sign : BitVec 1) : BitVec f.width := fmake sign (BitVec.allOnes _) 0#_

/-- `riscv_f16Rsqrte7`, `riscv_f32Rsqrte7` and `riscv_f64Rsqrte7`. -/
def rsqrte7 (v : BitVec f.width) : Fflags × BitVec f.width :=
  if fIsNegInf v || fIsNegNorm v || fIsNegSubnorm v || fIsSNaN v then (nvFlag, canonicalNaN f)
  else if fIsQNaN v then (0#5, canonicalNaN f)
  else if fIsNegZero v then (dzFlag, finf f 1#1)
  else if fIsPosZero v then (dzFlag, finf f 0#1)
  else if fIsPosInf v then (0#5, 0#_)
  else (0#5, rsqrt7 v (fIsPosSubnorm v))

/-- The table of `recip7`. -/
def recip7Table : List ℕ :=
  [127, 125, 123, 121, 119, 117, 116, 114, 112, 110, 109, 107, 105, 104, 102, 100,
    99, 97, 96, 94, 93, 91, 90, 88, 87, 85, 84, 83, 81, 80, 79, 77,
    76, 75, 74, 72, 71, 70, 69, 68, 66, 65, 64, 63, 62, 61, 60, 59,
    58, 57, 56, 55, 54, 53, 52, 51, 50, 49, 48, 47, 46, 45, 44, 43,
    42, 41, 40, 40, 39, 38, 37, 36, 35, 35, 34, 33, 32, 31, 31, 30,
    29, 28, 28, 27, 26, 25, 25, 24, 23, 23, 22, 21, 21, 20, 19, 19,
    18, 17, 17, 16, 15, 15, 14, 14, 13, 12, 12, 11, 11, 10, 9, 9,
    8, 8, 7, 7, 6, 5, 5, 4, 4, 3, 3, 2, 2, 1, 1, 0]

/-- The value of `recip7`, for an operand that is not too small. -/
def recip7Value (v : BitVec f.width) (sub : Bool) : BitVec f.width :=
  let idx : BitVec 7 := bits (normalizedSig v sub) (f.mantWidth - 7) 7
  let midExp := BitVec.ofInt f.expWidth
    (2 * (2 ^ (f.expWidth - 1) - 1) - 1 - (normalizedExp v sub).toInt)
  let midSig := BitVec.ofNat f.mantWidth (recip7Table.getD idx.toNat 0) <<< (f.mantWidth - 7)
  if midExp = 0#_ then
    fmake (fsign v) midExp (midSig >>> 1 ||| BitVec.ofNat _ (2 ^ (f.mantWidth - 1)))
  else if midExp = BitVec.allOnes _ then
    fmake (fsign v) 0#_ (midSig >>> 2 ||| BitVec.ofNat _ (2 ^ (f.mantWidth - 2)))
  else fmake (fsign v) midExp midSig

/-- `recip7`: whether rounding is abnormal, and the estimate. -/
def recip7 (v : BitVec f.width) (rm : BitVec 3) (sub : Bool) : Bool × BitVec f.width :=
  let sign := fsign v
  if sub && decide (countLeadingzeros (fmant v) > 1) then
    if rm == 0b001#3 || (rm == 0b010#3 && sign == 0b0#1) || (rm == 0b011#3 && sign == 0b1#1) then
      (true, fmake sign (BitVec.allOnes _ - 1#_) (BitVec.allOnes _))
    else (true, finf f sign)
  else (false, recip7Value v sub)

/-- `riscv_f16Recip7`, `riscv_f32Recip7` and `riscv_f64Recip7`. -/
def recip7e (rm : BitVec 3) (v : BitVec f.width) : Fflags × BitVec f.width :=
  if fIsNegInf v then (0#5, fmake 1#1 0#_ 0#_)
  else if fIsPosInf v then (0#5, 0#_)
  else if fIsNegZero v then (dzFlag, finf f 1#1)
  else if fIsPosZero v then (dzFlag, finf f 0#1)
  else if fIsSNaN v then (nvFlag, canonicalNaN f)
  else if fIsQNaN v then (0#5, canonicalNaN f)
  else
    let r := recip7 v rm (fIsNegSubnorm v || fIsPosSubnorm v)
    (if r.1 then nxFlag ||| ofFlag else 0#5, r.2)

end Estimates

end SailRiscv
