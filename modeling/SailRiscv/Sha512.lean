/-
# The SHA-512 functions on RV64 and RV32

The sums and the signatures of SHA-512 are one instruction on RV64 and a pair of instructions on
RV32, one for each half of the result.
-/
import SailRiscv.KextRuns

namespace SailRiscv

open Platform

/-! ## Rotations and shifts of two words -/

section

variable {n : ℕ}

/-- The bits of a word that is shifted by less than its width, with another above it. -/
theorem getLsbD_funnel (hi lo : BitVec n) {k i : ℕ} (hk : k < n) (hlt : i < n) :
    (lo >>> k ^^^ hi <<< (n - k)).getLsbD i
      = if k + i < n then lo.getLsbD (k + i) else hi.getLsbD (k + i - n) := by
  rw [BitVec.getLsbD_xor, BitVec.getLsbD_ushiftRight, BitVec.getLsbD_shiftLeft, decide_eq_true hlt,
    Bool.true_and]
  by_cases hin : k + i < n
  · rw [if_pos hin, decide_eq_true (show i < n - k by omega), Bool.not_true, Bool.false_and,
      Bool.xor_false]
  · rw [if_neg hin, decide_eq_false (show ¬ i < n - k by omega), Bool.not_false, Bool.true_and,
      BitVec.getLsbD_of_ge lo _ (by omega), Bool.false_xor, show i - (n - k) = k + i - n by omega]

/-- A shift of two words. -/
theorem shiftRight_append (hi lo : BitVec n) {k : ℕ} (hk : k < n) :
    (hi ++ lo) >>> k = hi >>> k ++ (lo >>> k ^^^ hi <<< (n - k)) := by
  apply BitVec.eq_of_getLsbD_eq
  intro i _
  rw [BitVec.getLsbD_ushiftRight, BitVec.getLsbD_append, BitVec.getLsbD_append]
  by_cases hlow : i < n
  · rw [if_pos hlow, getLsbD_funnel hi lo hk hlow]
  · rw [if_neg hlow, if_neg (by omega), BitVec.getLsbD_ushiftRight,
      show k + i - n = k + (i - n) by omega]

/-- A rotation of two words by less than a word. -/
theorem rotater_append (hi lo : BitVec n) {k : ℕ} (hk : k < n) :
    rotater (hi ++ lo) k = (hi >>> k ^^^ lo <<< (n - k)) ++ (lo >>> k ^^^ hi <<< (n - k)) := by
  apply BitVec.eq_of_getLsbD_eq
  intro i hlt
  rw [getLsbD_rotater _ (by omega) hlt, BitVec.getLsbD_append, BitVec.getLsbD_append,
    BitVec.getLsbD_append]
  by_cases hlow : i < n
  · rw [if_pos hlow, getLsbD_funnel _ _ hk hlow, if_pos (by omega)]
  · rw [if_neg hlow, getLsbD_funnel _ _ hk (by omega), if_neg (show ¬ k + i < n by omega),
      show k + (i - n) = k + i - n by omega]
    by_cases hin : k + i < n + n
    · rw [if_pos hin, if_pos (by omega)]
    · rw [if_neg hin, if_pos (by omega), if_neg (by omega),
        show k + i - n - n = k + i - (n + n) by omega]

/-- A rotation of two words by a word and more. -/
theorem rotater_append_add (hi lo : BitVec n) {k : ℕ} (hk : k < n) :
    rotater (hi ++ lo) (n + k) = rotater (lo ++ hi) k := by
  apply BitVec.eq_of_getLsbD_eq
  intro i hlt
  rw [getLsbD_rotater _ (by omega) hlt, getLsbD_rotater _ (by omega) hlt, BitVec.getLsbD_append,
    BitVec.getLsbD_append, BitVec.getLsbD_append, BitVec.getLsbD_append]
  by_cases hwrap : k + i < n
  · rw [if_pos (by omega), if_neg (by omega), if_pos (by omega), if_pos hwrap,
      show n + k + i - n = k + i by omega]
  by_cases hin : k + i < n + n
  · rw [if_neg (by omega), if_pos hin, if_neg hwrap, if_pos (by omega),
      show n + k + i - (n + n) = k + i - n by omega]
  · rw [if_neg (by omega), if_neg hin, if_neg (by omega), if_pos (by omega),
      show n + k + i - (n + n) - n = k + i - (n + n) by omega]

end

/-! ## The instructions -/

/-- The functions of SHA-512 that RV64 computes on one register. -/
inductive Sha512Fun
  | SUM0
  | SUM1
  | SIG0
  | SIG1

/-- The instruction of RV64. -/
def Sha512Fun.full (f : Sha512Fun) (rs1 rd : Regidx) : ZknInst :=
  match f with
  | .SUM0 => .SHA512SUM0 rs1 rd
  | .SUM1 => .SHA512SUM1 rs1 rd
  | .SIG0 => .SHA512SIG0 rs1 rd
  | .SIG1 => .SHA512SIG1 rs1 rd

/-- The instruction of RV32 for the low half. -/
def Sha512Fun.low (f : Sha512Fun) (rs2 rs1 rd : Regidx) : ZknInst :=
  match f with
  | .SUM0 => .SHA512SUM0R rs2 rs1 rd
  | .SUM1 => .SHA512SUM1R rs2 rs1 rd
  | .SIG0 => .SHA512SIG0L rs2 rs1 rd
  | .SIG1 => .SHA512SIG1L rs2 rs1 rd

/-- The instruction of RV32 for the high half. -/
def Sha512Fun.high (f : Sha512Fun) (rs2 rs1 rd : Regidx) : ZknInst :=
  match f with
  | .SUM0 => .SHA512SUM0R rs2 rs1 rd
  | .SUM1 => .SHA512SUM1R rs2 rs1 rd
  | .SIG0 => .SHA512SIG0H rs2 rs1 rd
  | .SIG1 => .SHA512SIG1H rs2 rs1 rd

/-- What the instruction of RV64 computes. -/
def Sha512Fun.value (f : Sha512Fun) (x : BitVec 64) : BitVec 64 :=
  match f with
  | .SUM0 => rotater x 28 ^^^ rotater x 34 ^^^ rotater x 39
  | .SUM1 => rotater x 14 ^^^ rotater x 18 ^^^ rotater x 41
  | .SIG0 => rotater x 1 ^^^ rotater x 8 ^^^ x >>> 7
  | .SIG1 => rotater x 19 ^^^ rotater x 61 ^^^ x >>> 6

/-- What the instruction of RV32 for the low half computes. -/
def Sha512Fun.lowValue {n : ℕ} (f : Sha512Fun) (y x : BitVec n) : BitVec n :=
  match f with
  | .SUM0 => x <<< 25 ^^^ x <<< 30 ^^^ x >>> 28 ^^^ y >>> 7 ^^^ y >>> 2 ^^^ y <<< 4
  | .SUM1 => x <<< 23 ^^^ x >>> 14 ^^^ x >>> 18 ^^^ y >>> 9 ^^^ y <<< 18 ^^^ y <<< 14
  | .SIG0 => x >>> 1 ^^^ x >>> 7 ^^^ x >>> 8 ^^^ y <<< 31 ^^^ y <<< 25 ^^^ y <<< 24
  | .SIG1 => x <<< 3 ^^^ x >>> 6 ^^^ x >>> 19 ^^^ y >>> 29 ^^^ y <<< 26 ^^^ y <<< 13

/-- What the instruction of RV32 for the high half computes. -/
def Sha512Fun.highValue {n : ℕ} (f : Sha512Fun) (y x : BitVec n) : BitVec n :=
  match f with
  | .SUM0 => x <<< 25 ^^^ x <<< 30 ^^^ x >>> 28 ^^^ y >>> 7 ^^^ y >>> 2 ^^^ y <<< 4
  | .SUM1 => x <<< 23 ^^^ x >>> 14 ^^^ x >>> 18 ^^^ y >>> 9 ^^^ y <<< 18 ^^^ y <<< 14
  | .SIG0 => x >>> 1 ^^^ x >>> 7 ^^^ x >>> 8 ^^^ y <<< 31 ^^^ y <<< 24
  | .SIG1 => x <<< 3 ^^^ x >>> 6 ^^^ x >>> 19 ^^^ y >>> 29 ^^^ y <<< 13

section

variable (hi lo : BitVec 32)

/-- The two instructions of RV32 compute the halves of what the one of RV64 computes. -/
theorem Sha512Fun.value_append (f : Sha512Fun) :
    f.value (hi ++ lo) = f.highValue lo hi ++ f.lowValue hi lo := by
  have below (k : ℕ) (hk : k < 32) :
      rotater (hi ++ lo) k = (hi >>> k ^^^ lo <<< (32 - k)) ++ (lo >>> k ^^^ hi <<< (32 - k)) :=
    rotater_append hi lo hk
  have above (k : ℕ) (hk : k < 32) :
      rotater (hi ++ lo) (32 + k)
        = (lo >>> k ^^^ hi <<< (32 - k)) ++ (hi >>> k ^^^ lo <<< (32 - k)) :=
    (rotater_append_add hi lo hk).trans (rotater_append lo hi hk)
  have shifted (k : ℕ) (hk : k < 32) :
      (hi ++ lo) >>> k = hi >>> k ++ (lo >>> k ^^^ hi <<< (32 - k)) :=
    shiftRight_append hi lo hk
  rcases f with _ | _ | _ | _
  · show rotater (hi ++ lo) 28 ^^^ rotater (hi ++ lo) (32 + 2) ^^^ rotater (hi ++ lo) (32 + 7) = _
    rw [below 28 (by omega), above 2 (by omega), above 7 (by omega), BitVec.xor_append,
      BitVec.xor_append]
    congr 1
    · show _ = hi <<< 25 ^^^ hi <<< 30 ^^^ hi >>> 28 ^^^ lo >>> 7 ^^^ lo >>> 2 ^^^ lo <<< 4
      simp only [Nat.reduceSub, BitVec.xor_comm, xor_left_comm]
    · show _ = lo <<< 25 ^^^ lo <<< 30 ^^^ lo >>> 28 ^^^ hi >>> 7 ^^^ hi >>> 2 ^^^ hi <<< 4
      simp only [Nat.reduceSub, BitVec.xor_comm, xor_left_comm]
  · show rotater (hi ++ lo) 14 ^^^ rotater (hi ++ lo) 18 ^^^ rotater (hi ++ lo) (32 + 9) = _
    rw [below 14 (by omega), below 18 (by omega), above 9 (by omega), BitVec.xor_append,
      BitVec.xor_append]
    congr 1
    · show _ = hi <<< 23 ^^^ hi >>> 14 ^^^ hi >>> 18 ^^^ lo >>> 9 ^^^ lo <<< 18 ^^^ lo <<< 14
      simp only [Nat.reduceSub, BitVec.xor_comm, xor_left_comm]
    · show _ = lo <<< 23 ^^^ lo >>> 14 ^^^ lo >>> 18 ^^^ hi >>> 9 ^^^ hi <<< 18 ^^^ hi <<< 14
      simp only [Nat.reduceSub, BitVec.xor_comm, xor_left_comm]
  · show rotater (hi ++ lo) 1 ^^^ rotater (hi ++ lo) 8 ^^^ (hi ++ lo) >>> 7 = _
    rw [below 1 (by omega), below 8 (by omega), shifted 7 (by omega), BitVec.xor_append,
      BitVec.xor_append]
    congr 1
    · show _ = hi >>> 1 ^^^ hi >>> 7 ^^^ hi >>> 8 ^^^ lo <<< 31 ^^^ lo <<< 24
      simp only [Nat.reduceSub, BitVec.xor_comm, xor_left_comm]
    · show _ = lo >>> 1 ^^^ lo >>> 7 ^^^ lo >>> 8 ^^^ hi <<< 31 ^^^ hi <<< 25 ^^^ hi <<< 24
      simp only [Nat.reduceSub, BitVec.xor_comm, xor_left_comm]
  · show rotater (hi ++ lo) 19 ^^^ rotater (hi ++ lo) (32 + 29) ^^^ (hi ++ lo) >>> 6 = _
    rw [below 19 (by omega), above 29 (by omega), shifted 6 (by omega), BitVec.xor_append,
      BitVec.xor_append]
    congr 1
    · show _ = hi <<< 3 ^^^ hi >>> 6 ^^^ hi >>> 19 ^^^ lo >>> 29 ^^^ lo <<< 13
      simp only [Nat.reduceSub, BitVec.xor_comm, xor_left_comm]
    · show _ = lo <<< 3 ^^^ lo >>> 6 ^^^ lo >>> 19 ^^^ hi >>> 29 ^^^ hi <<< 26 ^^^ hi <<< 13
      simp only [Nat.reduceSub, BitVec.xor_comm, xor_left_comm]

end

/-- The value of the low half at a width that is known to be a word. -/
theorem Sha512Fun.lowValue_setWidth (f : Sha512Fun) {n : ℕ} (hn : n = 32) (y x : BitVec 32) :
    f.lowValue (y.setWidth n) (x.setWidth n) = (f.lowValue y x).setWidth n := by
  subst hn
  rw [BitVec.setWidth_eq, BitVec.setWidth_eq, BitVec.setWidth_eq]

/-- The value of the high half at a width that is known to be a word. -/
theorem Sha512Fun.highValue_setWidth (f : Sha512Fun) {n : ℕ} (hn : n = 32) (y x : BitVec 32) :
    f.highValue (y.setWidth n) (x.setWidth n) = (f.highValue y x).setWidth n := by
  subst hn
  rw [BitVec.setWidth_eq, BitVec.setWidth_eq, BitVec.setWidth_eq]

/-! ## The two machines agree -/

section

variable [Platform]

/-- The instruction of RV64 computes its value. -/
theorem Sha512Fun.writes_full (f : Sha512Fun) (h64 : xlen = 64) (x : BitVec 64) :
    WritesOne f.full x (f.value x) := by
  apply writesOne_unary64 h64
  intro rs1 rd
  rcases f with _ | _ | _ | _
  all_goals rfl

/-- The instruction of RV32 for the low half computes its value. -/
theorem Sha512Fun.writes_low (f : Sha512Fun) (h32 : xlen = 32) (y x : BitVec 32) :
    WritesTwo f.low y x (f.lowValue y x) := by
  intro rs2 rs1 rd s hy hx
  rw [← f.lowValue_setWidth h32 y x, ← hx, ← hy]
  rcases f with _ | _ | _ | _
  all_goals rfl

/-- The instruction of RV32 for the high half computes its value. -/
theorem Sha512Fun.writes_high (f : Sha512Fun) (h32 : xlen = 32) (y x : BitVec 32) :
    WritesTwo f.high y x (f.highValue y x) := by
  intro rs2 rs1 rd s hy hx
  rw [← f.highValue_setWidth h32 y x, ← hx, ← hy]
  rcases f with _ | _ | _ | _
  all_goals rfl

end

/-- **The functions of SHA-512 agree across the widths.** What the instruction of RV64 computes
from `hi ++ lo` has as its low half what the instruction of RV32 for that half computes with `lo`
in `rs1` and `hi` in `rs2`, and as its high half what the one for the high half computes with the
two exchanged. -/
theorem sha512_halves (P Q : Platform) (hP : P.xlen = 64) (hQ : Q.xlen = 32) (f : Sha512Fun)
    (hi lo : BitVec 32) :
    ∃ v : BitVec 64, @WritesOne P 64 f.full (hi ++ lo) v
      ∧ @WritesTwo Q 32 f.low hi lo (bits v 0 32)
      ∧ @WritesTwo Q 32 f.high lo hi (bits v 32 32) := by
  have hlow : bits (f.value (hi ++ lo)) 0 32 = f.lowValue hi lo := by
    rw [f.value_append hi lo]
    exact BitVec.extractLsb'_append_eq_right
  have hhigh : bits (f.value (hi ++ lo)) 32 32 = f.highValue lo hi := by
    rw [f.value_append hi lo]
    exact BitVec.extractLsb'_append_eq_left
  refine ⟨f.value (hi ++ lo), ?_, ?_, ?_⟩
  · exact @Sha512Fun.writes_full P f hP (hi ++ lo)
  · rw [hlow]
    exact @Sha512Fun.writes_low Q f hQ hi lo
  · rw [hhigh]
    exact @Sha512Fun.writes_high Q f hQ lo hi

/-- The second signature of the word with its first and its last bit set. -/
theorem sha512_halves_sig1 :
    ∃ v : BitVec 64,
      @WritesOne (rv64Pmp 0 (by decide)) 64 Sha512Fun.SIG1.full (0x80000000#32 ++ 1#32) v
      ∧ @WritesTwo (rv32Pmp 0 (by decide)) 32 Sha512Fun.SIG1.low 0x80000000#32 1#32 (bits v 0 32)
      ∧ @WritesTwo (rv32Pmp 0 (by decide)) 32 Sha512Fun.SIG1.high 1#32 0x80000000#32
          (bits v 32 32) :=
  sha512_halves (rv64Pmp 0 (by decide)) (rv32Pmp 0 (by decide)) rfl rfl .SIG1 0x80000000#32 1#32

end SailRiscv
