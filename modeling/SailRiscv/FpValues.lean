/-
# Floating-point values

The formats, the structure of a value and the comparisons of `riscv_insts_fext.sail`,
`riscv_insts_dext.sail` and `riscv_insts_zfh.sail`.  The three files follow each other
closely, so a function and its copies with the suffixes `_H`, `_S` and `_D` are one definition
here, with the format as a parameter.

The arithmetic itself is that of the SoftFloat library behind `riscv_softfloat_interface.sail`
and is a parameter, the class `SoftFloat`.
-/
import SailRiscv.SysRegs

namespace SailRiscv

open Bits Platform

/-! ## Formats -/

/-- The half, single and double precision formats. -/
inductive FpFormat where
  | H | S | D
  deriving DecidableEq, Repr

namespace FpFormat

/-- The width of a value. -/
@[reducible] def width : FpFormat → ℕ
  | H => 16
  | S => 32
  | D => 64

/-- The width of the exponent. -/
@[reducible] def expWidth : FpFormat → ℕ
  | H => 5
  | S => 8
  | D => 11

/-- The width of the mantissa. -/
@[reducible] def mantWidth : FpFormat → ℕ
  | H => 10
  | S => 23
  | D => 52

end FpFormat

/-- The flags that a floating-point operation raises. -/
abbrev Fflags := BitVec 5

/-- The functions of `riscv_softfloat_interface.sail`, format by format: each takes a rounding
mode and operands and returns flags and a result. -/
class SoftFloat where
  add (f : FpFormat) : BitVec 3 → BitVec f.width → BitVec f.width → Fflags × BitVec f.width
  sub (f : FpFormat) : BitVec 3 → BitVec f.width → BitVec f.width → Fflags × BitVec f.width
  mul (f : FpFormat) : BitVec 3 → BitVec f.width → BitVec f.width → Fflags × BitVec f.width
  div (f : FpFormat) : BitVec 3 → BitVec f.width → BitVec f.width → Fflags × BitVec f.width
  mulAdd (f : FpFormat) : BitVec 3 → BitVec f.width → BitVec f.width → BitVec f.width →
    Fflags × BitVec f.width
  sqrt (f : FpFormat) : BitVec 3 → BitVec f.width → Fflags × BitVec f.width
  /-- To a signed integer of 32 or 64 bits. -/
  toI (f : FpFormat) (n : ℕ) : BitVec 3 → BitVec f.width → Fflags × BitVec n
  /-- To an unsigned integer of 32 or 64 bits. -/
  toUi (f : FpFormat) (n : ℕ) : BitVec 3 → BitVec f.width → Fflags × BitVec n
  /-- From a signed integer of 32 or 64 bits. -/
  ofI (f : FpFormat) (n : ℕ) : BitVec 3 → BitVec n → Fflags × BitVec f.width
  /-- From an unsigned integer of 32 or 64 bits. -/
  ofUi (f : FpFormat) (n : ℕ) : BitVec 3 → BitVec n → Fflags × BitVec f.width
  /-- From one format to another. -/
  convert (f g : FpFormat) : BitVec 3 → BitVec f.width → Fflags × BitVec g.width
  lt (f : FpFormat) : BitVec f.width → BitVec f.width → Fflags × Bool
  ltQuiet (f : FpFormat) : BitVec f.width → BitVec f.width → Fflags × Bool
  le (f : FpFormat) : BitVec f.width → BitVec f.width → Fflags × Bool
  leQuiet (f : FpFormat) : BitVec f.width → BitVec f.width → Fflags × Bool
  eq (f : FpFormat) : BitVec f.width → BitVec f.width → Fflags × Bool
  roundToInt (f : FpFormat) : BitVec 3 → BitVec f.width → Bool → Fflags × BitVec f.width
  deriving Inhabited

/-! ## Rounding modes -/

/-- `rounding_mode`. -/
inductive RoundingMode where
  | RM_RNE | RM_RTZ | RM_RDN | RM_RUP | RM_RMM | RM_DYN
  deriving DecidableEq, Repr

/-- `encdec_rounding_mode`. -/
def encdecRoundingMode : RoundingMode → BitVec 3
  | .RM_RNE => 0b000#3
  | .RM_RTZ => 0b001#3
  | .RM_RDN => 0b010#3
  | .RM_RUP => 0b011#3
  | .RM_RMM => 0b100#3
  | .RM_DYN => 0b111#3

/-- `encdec_rounding_mode`, read backwards. -/
def decodeRoundingMode (b : BitVec 3) : Option RoundingMode :=
  if b = 0b000#3 then some .RM_RNE
  else if b = 0b001#3 then some .RM_RTZ
  else if b = 0b010#3 then some .RM_RDN
  else if b = 0b011#3 then some .RM_RUP
  else if b = 0b100#3 then some .RM_RMM
  else if b = 0b111#3 then some .RM_DYN
  else none

/-- `valid_rounding_mode`. -/
def validRoundingMode (rm : BitVec 3) : Bool := rm != 0b101#3 && rm != 0b110#3

/-- `select_instr_or_fcsr_rm`. -/
def selectInstrOrFcsrRm [Platform] (s : State) (instrRm : RoundingMode) : Option RoundingMode :=
  if instrRm = .RM_DYN then
    let fcsrRm := Fcsr.FRM.get s.fcsr
    if validRoundingMode fcsrRm && fcsrRm != encdecRoundingMode .RM_DYN then
      decodeRoundingMode fcsrRm
    else none
  else some instrRm

/-! ## Flags -/

/-- `nxFlag`. -/
def nxFlag : Fflags := 0b00001#5

/-- `ofFlag`. -/
def ofFlag : Fflags := 0b00100#5

/-- `dzFlag`. -/
def dzFlag : Fflags := 0b01000#5

/-- `nvFlag`. -/
def nvFlag : Fflags := 0b10000#5

/-! ## The structure of a value -/

section Values

variable {f : FpFormat}

/-- The sign, the first part of `fsplit`. -/
def fsign (v : BitVec f.width) : BitVec 1 := v.extractLsb' (f.expWidth + f.mantWidth) 1

/-- The exponent, the second part of `fsplit`. -/
def fexp (v : BitVec f.width) : BitVec f.expWidth := v.extractLsb' f.mantWidth f.expWidth

/-- The mantissa, the third part of `fsplit`. -/
def fmant (v : BitVec f.width) : BitVec f.mantWidth := v.extractLsb' 0 f.mantWidth

/-- `fmake`. -/
def fmake (sign : BitVec 1) (exp : BitVec f.expWidth) (mant : BitVec f.mantWidth) :
    BitVec f.width := (sign ++ exp ++ mant).setWidth f.width

/-- `f_is_neg_inf`. -/
def fIsNegInf (v : BitVec f.width) : Bool :=
  fsign v == 0b1#1 && fexp v == BitVec.allOnes _ && fmant v == 0#_

/-- `f_is_neg_norm`. -/
def fIsNegNorm (v : BitVec f.width) : Bool :=
  fsign v == 0b1#1 && fexp v != 0#_ && fexp v != BitVec.allOnes _

/-- `f_is_neg_subnorm`. -/
def fIsNegSubnorm (v : BitVec f.width) : Bool :=
  fsign v == 0b1#1 && fexp v == 0#_ && fmant v != 0#_

/-- `f_is_neg_zero`. -/
def fIsNegZero (v : BitVec f.width) : Bool :=
  fsign v == 0b1#1 && fexp v == 0#_ && fmant v == 0#_

/-- `f_is_pos_zero`. -/
def fIsPosZero (v : BitVec f.width) : Bool :=
  fsign v == 0b0#1 && fexp v == 0#_ && fmant v == 0#_

/-- `f_is_pos_subnorm`. -/
def fIsPosSubnorm (v : BitVec f.width) : Bool :=
  fsign v == 0b0#1 && fexp v == 0#_ && fmant v != 0#_

/-- `f_is_pos_norm`. -/
def fIsPosNorm (v : BitVec f.width) : Bool :=
  fsign v == 0b0#1 && fexp v != 0#_ && fexp v != BitVec.allOnes _

/-- `f_is_pos_inf`. -/
def fIsPosInf (v : BitVec f.width) : Bool :=
  fsign v == 0b0#1 && fexp v == BitVec.allOnes _ && fmant v == 0#_

/-- `f_is_SNaN`. -/
def fIsSNaN (v : BitVec f.width) : Bool :=
  fexp v == BitVec.allOnes _ && !(fmant v).getLsbD (f.mantWidth - 1) && fmant v != 0#_

/-- `f_is_QNaN`. -/
def fIsQNaN (v : BitVec f.width) : Bool :=
  fexp v == BitVec.allOnes _ && (fmant v).getLsbD (f.mantWidth - 1)

/-- `f_is_NaN`. -/
def fIsNaN (v : BitVec f.width) : Bool := fexp v == BitVec.allOnes _ && fmant v != 0#_

/-- `canonical_NaN`. -/
def canonicalNaN (f : FpFormat) : BitVec f.width :=
  fmake 0b0#1 (BitVec.allOnes _) (BitVec.ofNat _ (2 ^ (f.mantWidth - 1)))

/-- `negate`. -/
def fnegate (v : BitVec f.width) : BitVec f.width :=
  fmake (if fsign v = 0b0#1 then 0b1#1 else 0b0#1) (fexp v) (fmant v)

/-! ## Comparisons -/

/-- The flags of `fle`. -/
def compareFlags (v1 v2 : BitVec f.width) (isQuiet : Bool) : Fflags :=
  if isQuiet then (if fIsSNaN v1 || fIsSNaN v2 then nvFlag else 0#5)
  else (if fIsNaN v1 || fIsNaN v2 then nvFlag else 0#5)

/-- `fle`. -/
def fle (v1 v2 : BitVec f.width) (isQuiet : Bool) : Bool × Fflags :=
  let v1Is0 := fIsNegZero v1 || fIsPosZero v1
  let v2Is0 := fIsNegZero v2 || fIsPosZero v2
  let result : Bool :=
    if fsign v1 == 0b0#1 && fsign v2 == 0b0#1 then
      if fexp v1 = fexp v2 then decide ((fmant v1).toNat ≤ (fmant v2).toNat)
      else decide ((fexp v1).toNat < (fexp v2).toNat)
    else if fsign v1 == 0b0#1 && fsign v2 == 0b1#1 then v1Is0 && v2Is0
    else if fsign v1 == 0b1#1 && fsign v2 == 0b0#1 then true
    else
      if fexp v1 = fexp v2 then decide ((fmant v1).toNat ≥ (fmant v2).toNat)
      else decide ((fexp v1).toNat > (fexp v2).toNat)
  (result, compareFlags v1 v2 isQuiet)

/-- The result and the flags of `FMIN`. -/
def fminResult (v1 v2 : BitVec f.width) : Fflags × BitVec f.width :=
  let r := fle v1 v2 true
  (r.2,
    if fIsNaN v1 && fIsNaN v2 then canonicalNaN f
    else if fIsNaN v1 then v2
    else if fIsNaN v2 then v1
    else if fIsNegZero v1 && fIsPosZero v2 then v1
    else if fIsNegZero v2 && fIsPosZero v1 then v2
    else if r.1 then v1 else v2)

/-- The result and the flags of `FMAX`. -/
def fmaxResult (v1 v2 : BitVec f.width) : Fflags × BitVec f.width :=
  let r := fle v2 v1 true
  (r.2,
    if fIsNaN v1 && fIsNaN v2 then canonicalNaN f
    else if fIsNaN v1 then v2
    else if fIsNaN v2 then v1
    else if fIsNegZero v1 && fIsPosZero v2 then v2
    else if fIsNegZero v2 && fIsPosZero v1 then v1
    else if r.1 then v1 else v2)

/-- The ten bits of `FCLASS`. -/
def fclassResult (v : BitVec f.width) : BitVec 10 :=
  if fIsNegInf v then 0b0000000001#10
  else if fIsNegNorm v then 0b0000000010#10
  else if fIsNegSubnorm v then 0b0000000100#10
  else if fIsNegZero v then 0b0000001000#10
  else if fIsPosZero v then 0b0000010000#10
  else if fIsPosSubnorm v then 0b0000100000#10
  else if fIsPosNorm v then 0b0001000000#10
  else if fIsPosInf v then 0b0010000000#10
  else if fIsSNaN v then 0b0100000000#10
  else if fIsQNaN v then 0b1000000000#10
  else 0#10

end Values

end SailRiscv
