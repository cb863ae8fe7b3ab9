/-
# Conversions to narrow integers

`riscv_f16ToI16` and the functions next to it convert to an integer that is narrower than those of
the floating-point library: they convert to 32 bits, drop the flags, and clamp the result. Hence the
flags of the narrow conversion are those of a rounded value, clamped, only where there is no inexact
result to report, and no negative one that the unsigned conversion to 32 bits has already clamped
(`narrow_conversions_iff`).
-/
import SailRiscv.Fcvtmod
import SailRiscv.FixedPoint

namespace SailRiscv

open Bits

/-! ## Rounding to an integer -/

/-- The rounding modes that an operation is carried out in. -/
inductive Direction where
  | RNE | RTZ | RDN | RUP | RMM
  deriving DecidableEq

/-- The rounding mode as in `fcsr.FRM`. -/
def Direction.encdec : Direction → BitVec 3
  | .RNE => encdecRoundingMode .RM_RNE
  | .RTZ => encdecRoundingMode .RM_RTZ
  | .RDN => encdecRoundingMode .RM_RDN
  | .RUP => encdecRoundingMode .RM_RUP
  | .RMM => encdecRoundingMode .RM_RMM

/-- The integer that `q` is rounded to. -/
def Direction.roundInt (d : Direction) (q : ℚ) : ℤ :=
  match d with
  | .RNE => if (round q : ℚ) = q + 1 / 2 ∧ ¬ Even (round q) then round q - 1 else round q
  | .RTZ => truncate q
  | .RDN => ⌊q⌋
  | .RUP => ⌈q⌉
  | .RMM => if q < 0 then -round (-q) else round q

/-- An integer is rounded to itself. -/
theorem Direction.roundInt_intCast (d : Direction) (k : ℤ) : d.roundInt k = k := by
  rcases d with _ | _ | _ | _ | _
  · show (if _ then _ else _) = _
    rw [round_intCast, if_neg]
    rintro ⟨htie, -⟩
    linarith
  · show (if _ then _ else _) = _
    rw [Int.ceil_intCast, Int.floor_intCast, ite_self]
  · exact Int.floor_intCast k
  · exact Int.ceil_intCast k
  · show (if _ then _ else _) = _
    rw [round_intCast, ← Int.cast_neg, round_intCast, neg_neg, ite_self]

/-- The rounding is exact for the integers. -/
theorem Direction.roundInt_eq_iff (d : Direction) (q : ℚ) :
    (d.roundInt q : ℚ) = q ↔ ∃ k : ℤ, q = k := by
  constructor
  · exact fun h => ⟨_, h.symm⟩
  · rintro ⟨k, rfl⟩
    rw [d.roundInt_intCast]

/-! ## The conversion -/

section Conversion

variable {f : FpFormat} {n : ℕ} {d : Direction} {v : BitVec f.width}

/-- The conversion to an integer of a range: the rounded value, clamped, and the flags. A value that
is not a number is converted to the upper bound. -/
def conversion (r : Range) (n : ℕ) (d : Direction) (v : BitVec f.width) : Fflags × BitVec n :=
  if fIsNaN v || fIsPosInf v then (nvFlag, BitVec.ofInt n r.hi)
  else if fIsNegInf v then (nvFlag, BitVec.ofInt n r.lo)
  else
    let q := frational v
    let k := d.roundInt q
    (if r.out k then nvFlag else if (k : ℚ) = q then 0#5 else nxFlag, BitVec.ofInt n (r.clamp k))

/-- The conversions of the library are those of the standard. -/
def IeeeToInt [SoftFloat] : Prop :=
  ∀ (f : FpFormat) (d : Direction) (v : BitVec f.width),
    SoftFloat.toI f 32 d.encdec v = conversion (Range.signed 32) 32 d v
      ∧ SoftFloat.toUi f 32 d.encdec v = conversion (Range.unsigned 32) 32 d v

/-- A finite value that is rounded into the range is an integer. -/
def ExactWithin (r : Range) (d : Direction) (v : BitVec f.width) : Prop :=
  fexp v ≠ BitVec.allOnes _ → r.out (d.roundInt (frational v)) = false →
    ∃ k : ℤ, frational v = k

/-- A value that is not rounded to a negative integer. -/
def NotRoundedBelow (d : Direction) (v : BitVec f.width) : Prop :=
  fIsNegInf v = false ∧ (fexp v ≠ BitVec.allOnes _ → 0 ≤ d.roundInt (frational v))

/-- The bounds of the narrow signed numbers. -/
theorem signed_lt (hn : 0 < n) (hn' : n < 32) :
    (Range.signed n).hi < (Range.signed 32).hi ∧ (Range.signed 32).lo < (Range.signed n).lo
      ∧ (Range.signed n).lo < (Range.signed n).hi + 1 ∧ 0 ≤ (Range.signed n).hi := by
  have hpow : (2 : ℤ) ^ (n - 1) < 2 ^ 31 := by
    exact_mod_cast Nat.pow_lt_pow_right (by omega) (by omega)
  have hpos : (0 : ℤ) < 2 ^ (n - 1) := by positivity
  show (2 : ℤ) ^ (n - 1) - 1 < 2 ^ 31 - 1 ∧ -(2 : ℤ) ^ 31 < -2 ^ (n - 1)
    ∧ -(2 : ℤ) ^ (n - 1) < 2 ^ (n - 1) - 1 + 1 ∧ (0 : ℤ) ≤ 2 ^ (n - 1) - 1
  omega

/-- What the narrow conversion makes of a signed integer of 32 bits. -/
theorem toINarrow_of [SoftFloat] {fl : Fflags} {rm : BitVec 3} {x : ℤ} (hn : 0 < n) (hn' : n < 32)
    (hlo : (Range.signed 32).lo ≤ x) (hhi : x ≤ (Range.signed 32).hi)
    (h : SoftFloat.toI f 32 rm v = (fl, BitVec.ofInt 32 x)) :
    toINarrow f n rm v = (if (Range.signed n).out x then nvFlag else 0#5,
      BitVec.ofInt n ((Range.signed n).clamp x)) := by
  obtain ⟨hhi', hlo', hle, hpos⟩ := signed_lt hn hn'
  have hx : (BitVec.ofInt 32 x).toInt = x := toInt_ofInt_eq hlo (Int.lt_of_le_sub_one hhi) (by omega)
  have hmax : (signedMax n).toInt = (Range.signed n).hi := by
    rw [signedMax_eq hn]
    exact toInt_ofInt_eq (Int.le_of_lt_add_one hle) (Int.sub_one_lt_of_le le_rfl) hn
  have hmin : (signedMin n).toInt = (Range.signed n).lo := by
    rw [signedMin_eq hn]
    exact toInt_ofInt_eq le_rfl (lt_of_le_of_lt (Int.le_of_lt_add_one hle)
      (Int.sub_one_lt_of_le le_rfl)) hn
  unfold toINarrow
  rw [h]
  simp only [hx, hmax, hmin]
  by_cases hgt : x > (Range.signed n).hi
  · rw [if_pos hgt, Range.out_of_gt hgt, if_pos rfl, Range.clamp_of_gt hgt (by omega),
      signedMax_eq hn]
  · rw [if_neg hgt]
    by_cases hlt : x < (Range.signed n).lo
    · rw [if_pos hlt, Range.out_of_lt hlt, if_pos rfl, Range.clamp_of_lt hlt, signedMin_eq hn]
    · rw [if_neg hlt, Range.out_of_mem (by omega) (by omega), Range.clamp_of_mem (by omega) (by omega),
        if_neg Bool.false_ne_true]
      have hcut : (BitVec.ofInt 32 x).extractLsb' 0 n = BitVec.ofInt n x := by
        rw [← BitVec.setWidth_eq_extractLsb' (by omega), setWidth_ofInt (by omega)]
      rw [hcut]

/-- What the narrow conversion makes of an unsigned integer of 32 bits. -/
theorem toUiNarrow_of [SoftFloat] {fl : Fflags} {rm : BitVec 3} {x : ℤ} (hn' : n < 32)
    (hlo : 0 ≤ x) (hhi : x ≤ (Range.unsigned 32).hi)
    (h : SoftFloat.toUi f 32 rm v = (fl, BitVec.ofInt 32 x)) :
    toUiNarrow f n rm v = (if (Range.unsigned n).out x then nvFlag else 0#5,
      BitVec.ofInt n ((Range.unsigned n).clamp x)) := by
  have hpos : (0 : ℤ) < 2 ^ n := by positivity
  have hx : ((BitVec.ofInt 32 x).toNat : ℤ) = x := by
    rw [toNat_ofInt_eq]
    exact Int.emod_eq_of_lt hlo (Int.lt_of_le_sub_one hhi)
  have hones : ((BitVec.allOnes n).toNat : ℤ) = (Range.unsigned n).hi := by
    rw [BitVec.toNat_allOnes]
    push_cast [Nat.one_le_two_pow]
    rfl
  have hcond : (BitVec.ofInt 32 x).toNat > (BitVec.allOnes n).toNat ↔ x > (Range.unsigned n).hi := by
    omega
  have hrange : (Range.unsigned n).lo ≤ (Range.unsigned n).hi := by
    show (0 : ℤ) ≤ 2 ^ n - 1
    omega
  unfold toUiNarrow
  rw [h]
  simp only [hcond]
  by_cases hgt : x > (Range.unsigned n).hi
  · rw [if_pos hgt, Range.out_of_gt hgt, if_pos rfl, Range.clamp_of_gt hgt hrange]
    have hval : BitVec.allOnes n = BitVec.ofInt n (Range.unsigned n).hi := by
      apply eq_ofInt
      rw [hones]
      exact (Int.emod_eq_of_lt hrange (Int.sub_one_lt_of_le le_rfl)).symm
    rw [hval]
  · rw [if_neg hgt, Range.out_of_mem hlo (by omega), Range.clamp_of_mem hlo (by omega),
      if_neg Bool.false_ne_true]
    have hcut : (BitVec.ofInt 32 x).extractLsb' 0 n = BitVec.ofInt n x := by
      rw [← BitVec.setWidth_eq_extractLsb' (by omega), setWidth_ofInt (by omega)]
    rw [hcut]

/-- The classes of the values that are not finite. -/
theorem special_cases (h : fexp v = BitVec.allOnes _) :
    ((fIsNaN v || fIsPosInf v) = true ∧ fIsNegInf v = false)
      ∨ ((fIsNaN v || fIsPosInf v) = false ∧ fIsNegInf v = true) := by
  unfold fIsNaN fIsPosInf fIsNegInf
  rw [h]
  by_cases hm : fmant v = 0#_
  · rw [hm]
    rcases fsign_cases v with hs | hs
    · rw [hs]
      exact Or.inl (by simp)
    · rw [hs]
      exact Or.inr (by simp)
  · refine Or.inl ⟨?_, ?_⟩
    · simp [hm]
    · simp [hm]

/-- The classes of a finite value. -/
theorem finite_cases (h : fexp v ≠ BitVec.allOnes _) :
    (fIsNaN v || fIsPosInf v) = false ∧ fIsNegInf v = false := by
  have hexp : (fexp v == BitVec.allOnes _) = false := beq_eq_false_iff_ne.mpr h
  unfold fIsNaN fIsPosInf fIsNegInf
  rw [hexp]
  simp

/-- The conversion of a value above all integers, or of none. -/
theorem conversion_above {r : Range} (h : (fIsNaN v || fIsPosInf v) = true) :
    conversion r n d v = (nvFlag, BitVec.ofInt n r.hi) := if_pos h

/-- The conversion of a value below all integers. -/
theorem conversion_below {r : Range} (h : (fIsNaN v || fIsPosInf v) = false)
    (h' : fIsNegInf v = true) : conversion r n d v = (nvFlag, BitVec.ofInt n r.lo) := by
  unfold conversion
  rw [if_neg (by rw [h]; exact Bool.false_ne_true), if_pos h']

/-- The conversion of a finite value. -/
theorem conversion_finite {r : Range} (h : fexp v ≠ BitVec.allOnes _) :
    conversion r n d v
      = (if r.out (d.roundInt (frational v)) then nvFlag
          else if (d.roundInt (frational v) : ℚ) = frational v then 0#5 else nxFlag,
        BitVec.ofInt n (r.clamp (d.roundInt (frational v)))) := by
  obtain ⟨h₁, h₂⟩ := finite_cases h
  unfold conversion
  rw [if_neg (by rw [h₁]; exact Bool.false_ne_true), if_neg (by rw [h₂]; exact Bool.false_ne_true)]

/-- A clamped number is in the range. -/
theorem Range.clamp_mem {r : Range} (x : ℤ) (hr : r.lo ≤ r.hi) :
    r.lo ≤ r.clamp x ∧ r.clamp x ≤ r.hi := by
  unfold Range.clamp
  omega

/-- Clamping first to a wider range. -/
theorem Range.clamp_clamp {r r' : Range} (x : ℤ) (hlo : r'.lo ≤ r.lo) (hhi : r.hi ≤ r'.hi)
    (hr : r.lo ≤ r.hi) : r.clamp (r'.clamp x) = r.clamp x := by
  unfold Range.clamp
  omega

/-- What is out of a range is so when clamped to a wider one. -/
theorem Range.out_clamp {r r' : Range} {x : ℤ} (hlo : x < r.lo → r'.lo < r.lo)
    (hhi : r.hi < r'.hi) (hr : r'.lo ≤ r.lo) (hr' : r.lo ≤ r.hi) :
    r.out (r'.clamp x) = r.out x := by
  unfold Range.out Range.clamp
  rw [decide_eq_decide]
  omega

/-- A conversion without flags of its own, against the one with flags. -/
theorem flags_eq_iff {r : Range} {b : BitVec n} (k : ℤ) (q : ℚ) :
    ((if r.out k then nvFlag else 0#5, b) : Fflags × BitVec n)
        = (if r.out k then nvFlag else if (k : ℚ) = q then 0#5 else nxFlag, b)
      ↔ (r.out k = false → (k : ℚ) = q) := by
  rw [Prod.mk.injEq, and_iff_left rfl]
  rcases r.out k with _ | _
  · by_cases hq : (k : ℚ) = q
    · rw [if_pos hq]
      exact iff_of_true rfl fun _ => hq
    · rw [if_neg hq]
      refine iff_of_false ?_ fun h => hq (h rfl)
      rw [if_neg Bool.false_ne_true, if_neg Bool.false_ne_true]
      decide
  · exact iff_of_true rfl nofun

/-- **The signed conversions.** -/
theorem toINarrow_eq_iff [SoftFloat] (hlib : IeeeToInt) (hn : 0 < n) (hn' : n < 32) :
    toINarrow f n d.encdec v = conversion (Range.signed n) n d v
      ↔ ExactWithin (Range.signed n) d v := by
  obtain ⟨hhi, hlo, hle, hpos⟩ := signed_lt hn hn'
  have hwide : (Range.signed 32).lo ≤ (Range.signed 32).hi := by omega
  obtain ⟨h, -⟩ := hlib f d v
  by_cases hfin : fexp v = BitVec.allOnes _
  · refine iff_of_true ?_ fun hne => absurd hfin hne
    rcases special_cases hfin with ⟨habove, -⟩ | ⟨habove, hbelow⟩
    · rw [conversion_above habove] at h ⊢
      rw [toINarrow_of hn hn' hwide le_rfl h, Range.out_of_gt hhi, if_pos rfl,
        Range.clamp_of_gt hhi (by omega)]
    · rw [conversion_below habove hbelow] at h ⊢
      rw [toINarrow_of hn hn' le_rfl hwide h, Range.out_of_lt hlo, if_pos rfl,
        Range.clamp_of_lt hlo]
  · rw [conversion_finite hfin] at h ⊢
    have hclamp := Range.clamp_clamp (d.roundInt (frational v)) hlo.le hhi.le (by omega)
    have hout := Range.out_clamp (x := d.roundInt (frational v)) (fun _ => hlo) hhi hlo.le (by omega)
    obtain ⟨hlow, hhigh⟩ := Range.clamp_mem (d.roundInt (frational v)) hwide
    rw [toINarrow_of hn hn' hlow hhigh h, hout, hclamp, flags_eq_iff]
    unfold ExactWithin
    rw [d.roundInt_eq_iff]
    exact ⟨fun h _ => h, fun h => h hfin⟩

/-- **The unsigned conversions.** -/
theorem toUiNarrow_eq_iff [SoftFloat] (hlib : IeeeToInt) (hn' : n < 32) :
    toUiNarrow f n d.encdec v = conversion (Range.unsigned n) n d v
      ↔ NotRoundedBelow d v ∧ ExactWithin (Range.unsigned n) d v := by
  have hpos : (0 : ℤ) < 2 ^ n := by positivity
  have hhi : (Range.unsigned n).hi < (Range.unsigned 32).hi := by
    have hpow : (2 : ℤ) ^ n < 2 ^ 32 := by
      exact_mod_cast Nat.pow_lt_pow_right (by omega) hn'
    exact Int.sub_lt_sub_right hpow 1
  have hlo : (Range.unsigned 32).lo = (Range.unsigned n).lo := rfl
  have hzero : (Range.unsigned n).lo = 0 := rfl
  have hle : (Range.unsigned n).lo ≤ (Range.unsigned n).hi := Int.le_sub_one_of_lt hpos
  obtain ⟨-, h⟩ := hlib f d v
  unfold NotRoundedBelow
  by_cases hfin : fexp v = BitVec.allOnes _
  · have hvac : ExactWithin (Range.unsigned n) d v := fun hne => absurd hfin hne
    rw [and_iff_left hvac, and_iff_left fun hne => absurd hfin hne]
    rcases special_cases hfin with ⟨habove, hbelow⟩ | ⟨habove, hbelow⟩
    · refine iff_of_true ?_ hbelow
      rw [conversion_above habove] at h ⊢
      rw [toUiNarrow_of hn' (by omega) le_rfl h, Range.out_of_gt hhi, if_pos rfl,
        Range.clamp_of_gt hhi hle]
    · rw [hbelow]
      refine iff_of_false ?_ Bool.true_eq_false.mp
      rw [conversion_below habove hbelow] at h ⊢
      rw [toUiNarrow_of hn' hlo.ge (by omega) h, Range.out_of_mem hlo.ge (by omega),
        if_neg Bool.false_ne_true]
      exact fun heq => absurd (Prod.mk.inj heq).1 (by decide)
  · obtain ⟨-, hbelow⟩ := finite_cases hfin
    rw [and_iff_right hbelow, forall_prop_of_true hfin]
    rw [conversion_finite hfin] at h ⊢
    obtain ⟨hlow, hhigh⟩ := Range.clamp_mem (r := Range.unsigned 32) (d.roundInt (frational v))
      (by omega)
    rw [toUiNarrow_of hn' hlow hhigh h, Range.clamp_clamp _ hlo.le hhi.le hle]
    by_cases hneg : d.roundInt (frational v) < 0
    · refine iff_of_false ?_ fun hmeets => by omega
      rw [Range.out_of_lt (x := d.roundInt (frational v)) (by omega), if_pos rfl,
        Range.clamp_of_lt (r := Range.unsigned 32) (by omega), hlo,
        Range.out_of_mem le_rfl hle, if_neg Bool.false_ne_true]
      exact fun heq => absurd (Prod.mk.inj heq).1 (by decide)
    · rw [Range.out_clamp (fun hlt => by omega) hhi hlo.le hle, flags_eq_iff,
        and_iff_right (by omega)]
      unfold ExactWithin
      rw [d.roundInt_eq_iff]
      exact ⟨fun h _ => h, fun h => h hfin⟩

/-- **The conversions to narrow integers.**  The signed ones return the rounded value, clamped, with
its flags exactly for the values that are integers when rounded into the range, and the unsigned
ones where, in addition, the value is not rounded to a negative integer. -/
theorem narrow_conversions_iff [SoftFloat] (hlib : IeeeToInt) (hn : 0 < n) (hn' : n < 32)
    (d : Direction) (v : BitVec f.width) :
    (toINarrow f n d.encdec v = conversion (Range.signed n) n d v
        ↔ ExactWithin (Range.signed n) d v)
      ∧ (toUiNarrow f n d.encdec v = conversion (Range.unsigned n) n d v
        ↔ NotRoundedBelow d v ∧ ExactWithin (Range.unsigned n) d v) :=
  ⟨toINarrow_eq_iff hlib hn hn', toUiNarrow_eq_iff hlib hn'⟩

end Conversion

/-! ## Flags that are lost -/

/-- The rounding mode of the bits in `fcsr.FRM`. -/
def decodeDirection (rm : BitVec 3) : Direction :=
  if rm = 0b000#3 then .RNE
  else if rm = 0b001#3 then .RTZ
  else if rm = 0b010#3 then .RDN
  else if rm = 0b011#3 then .RUP
  else .RMM

/-- A library whose conversions to integers are those of the standard. -/
@[reducible] def ieeeSoftFloat : SoftFloat :=
  { (default : SoftFloat) with
    toI := fun _ n rm v => conversion (Range.signed n) n (decodeDirection rm) v
    toUi := fun _ n rm v => conversion (Range.unsigned n) n (decodeDirection rm) v }

theorem ieeeToInt_ieee : @IeeeToInt ieeeSoftFloat := by
  intro f d v
  rcases d with _ | _ | _ | _ | _
  all_goals exact ⟨rfl, rfl⟩

/-- The value of the binary16 encoding of 1.5. -/
theorem frational_oneAndHalf : frational (f := .H) 0x3e00#16 = 3 / 2 := by
  have hexp : (fexp (f := .H) 0x3e00#16).toNat = 15 := by decide
  have hmant : (fmant (f := .H) 0x3e00#16).toNat = 512 := by decide
  have hsign : fsign (f := .H) 0x3e00#16 = 0b0#1 := by decide
  unfold frational withSign fmagnitude BinaryFloat.magnitude BinaryFloat.scaled
  rw [hexp, hmant, hsign]
  norm_num [FpFormat.bias]

/-- The value of the binary16 encoding of -1. -/
theorem frational_minusOne : frational (f := .H) 0xbc00#16 = -1 := by
  have hexp : (fexp (f := .H) 0xbc00#16).toNat = 15 := by decide
  have hmant : (fmant (f := .H) 0xbc00#16).toNat = 0 := by decide
  have hsign : fsign (f := .H) 0xbc00#16 = 0b1#1 := by decide
  unfold frational withSign fmagnitude BinaryFloat.magnitude BinaryFloat.scaled
  rw [hexp, hmant, hsign]
  norm_num [FpFormat.bias]

/-- The conversion of the binary16 value 1.5 to 16 bits does not report that it is inexact, and the
unsigned one of -1 not that it is invalid. -/
theorem narrow_conversions_drop_flags :
    letI := ieeeSoftFloat
    IeeeToInt
      ∧ toINarrow .H 16 (Direction.encdec .RTZ) 0x3e00#16
        ≠ conversion (f := .H) (Range.signed 16) 16 .RTZ 0x3e00#16
      ∧ toUiNarrow .H 16 (Direction.encdec .RTZ) 0xbc00#16
        ≠ conversion (f := .H) (Range.unsigned 16) 16 .RTZ 0xbc00#16
      ∧ ¬ (∀ (f : FpFormat) (n : ℕ) (d : Direction) (v : BitVec f.width), 0 < n → n < 32 →
        toINarrow f n d.encdec v = conversion (Range.signed n) n d v)
      ∧ ¬ (∀ (f : FpFormat) (n : ℕ) (d : Direction) (v : BitVec f.width), 0 < n → n < 32 →
        toUiNarrow f n d.encdec v = conversion (Range.unsigned n) n d v) := by
  let := ieeeSoftFloat
  have hsigned : toINarrow .H 16 (Direction.encdec .RTZ) 0x3e00#16
      ≠ conversion (f := .H) (Range.signed 16) 16 .RTZ 0x3e00#16 := by
    intro hlaw
    have hexact := (toINarrow_eq_iff ieeeToInt_ieee (by decide) (by decide)).mp hlaw
    have hone : Direction.roundInt .RTZ (3 / 2) = 1 := by
      show (if _ then _ else _) = _
      norm_num
    obtain ⟨k, hk⟩ := hexact (by decide) (by rw [frational_oneAndHalf, hone]; decide)
    rw [frational_oneAndHalf, div_eq_iff two_ne_zero] at hk
    norm_cast at hk
    omega
  have hunsigned : toUiNarrow .H 16 (Direction.encdec .RTZ) 0xbc00#16
      ≠ conversion (f := .H) (Range.unsigned 16) 16 .RTZ 0xbc00#16 := by
    intro hlaw
    obtain ⟨⟨-, hpos⟩, -⟩ := (toUiNarrow_eq_iff ieeeToInt_ieee (by decide)).mp hlaw
    have hle := hpos (by decide)
    rw [frational_minusOne, show (-1 : ℚ) = ((-1 : ℤ) : ℚ) by norm_num,
      Direction.roundInt_intCast] at hle
    omega
  exact ⟨ieeeToInt_ieee, hsigned, hunsigned,
    fun hall => hsigned (hall .H 16 .RTZ _ (by decide) (by decide)),
    fun hall => hunsigned (hall .H 16 .RTZ _ (by decide) (by decide))⟩

/-- The conversion of -1 to a signed integer keeps its flags, and the unsigned one does not. -/
theorem narrow_conversions_minusOne :
    letI := ieeeSoftFloat
    (toINarrow .H 16 (Direction.encdec .RTZ) 0xbc00#16
        = conversion (f := .H) (Range.signed 16) 16 .RTZ 0xbc00#16
      ↔ ExactWithin (f := .H) (Range.signed 16) .RTZ 0xbc00#16)
      ∧ ExactWithin (f := .H) (Range.signed 16) .RTZ 0xbc00#16 := by
  let := ieeeSoftFloat
  obtain ⟨hsigned, -⟩ := narrow_conversions_iff (f := .H) ieeeToInt_ieee (n := 16) (by decide)
    (by decide) .RTZ 0xbc00#16
  refine ⟨hsigned, fun _ _ => ⟨-1, ?_⟩⟩
  rw [frational_minusOne]
  norm_num

end SailRiscv
