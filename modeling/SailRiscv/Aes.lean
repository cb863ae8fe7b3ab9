/-
# AES rounds

The instructions for a round of AES: on RV64 one instruction computes half of the next state, on
RV32 one instruction adds what one byte of the state contributes to a column.
-/
import SailRiscv.KextRuns
import SailRiscv.ShiftRows

namespace SailRiscv

open Bits Platform

/-! ## The substitution of bytes -/

/-- The two tables are inverse to each other. -/
theorem aesSboxInv_fwd : ∀ b : BitVec 8, aesSboxInv (aesSboxFwd b) = b := by
  decide +kernel

/-- The bytes of a half with the forward table applied to each. -/
theorem lane_aesApplyFwdSbox (x : BitVec 64) {i : ℕ} (hi : i < 8) :
    lane 8 (aesApplyFwdSboxToEachByte x) i = aesSboxFwd (lane 8 x i) :=
  lane_eight (fun i => aesSboxFwd (lane 8 x i)) hi

/-- The bytes of a half with the inverse table applied to each. -/
theorem lane_aesApplyInvSbox (x : BitVec 64) {i : ℕ} (hi : i < 8) :
    lane 8 (aesApplyInvSboxToEachByte x) i = aesSboxInv (lane 8 x i) :=
  lane_eight (fun i => aesSboxInv (lane 8 x i)) hi

/-! ## The mixing of a column -/

/-- Multiplication by the generator is linear. -/
theorem xt2_xor (x y : BitVec 8) : xt2 (x ^^^ y) = xt2 x ^^^ xt2 y := by
  have hcarry (a b c : BitVec 8) (p q : Bool) :
      a ^^^ b ^^^ (if (p ^^ q) then c else 0x00#8)
        = (a ^^^ if p then c else 0x00#8) ^^^ (b ^^^ if q then c else 0x00#8) := by
    rcases p <;> rcases q <;> simp [BitVec.xor_comm, xor_left_comm]
  unfold xt2
  rw [BitVec.shiftLeft_xor_distrib, BitVec.getLsbD_xor, hcarry]

/-- A part of a product, which is there when a bit is set. -/
theorem ite_xor (b : Bool) (x y : BitVec 8) :
    (if b then x ^^^ y else 0x00#8) = (if b then x else 0x00#8) ^^^ (if b then y else 0x00#8) := by
  rcases b
  · exact (BitVec.xor_zero).symm
  · rfl

/-- `gfmul` is linear in the field element. -/
theorem gfmul_xor (x y : BitVec 8) (c : BitVec 4) :
    gfmul (x ^^^ y) c = gfmul x c ^^^ gfmul y c := by
  unfold gfmul
  rw [xt2_xor, xt2_xor, xt2_xor, ite_xor, ite_xor, ite_xor, ite_xor]
  simp only [BitVec.xor_assoc, xor_left_comm]

/-- What a byte contributes to the byte `d` places on in its column, in the forward direction. -/
def mixFwd (d : ℕ) (b : BitVec 8) : BitVec 8 :=
  match d with
  | 0 => gfmul b 0x2#4
  | 1 => b
  | 2 => b
  | _ => gfmul b 0x3#4

/-- What a byte contributes to the byte `d` places on in its column, in the inverse direction. -/
def mixInv (d : ℕ) (b : BitVec 8) : BitVec 8 :=
  match d with
  | 0 => gfmul b 0xe#4
  | 1 => gfmul b 0x9#4
  | 2 => gfmul b 0xd#4
  | _ => gfmul b 0xb#4

/-- What a byte contributes when the columns are not mixed. -/
def mixNone (d : ℕ) (b : BitVec 8) : BitVec 8 :=
  match d with
  | 0 => b
  | _ => 0#8

/-- Byte `j` of a column, as the sum of what the bytes `s` contribute. -/
def mixed (mix : ℕ → BitVec 8 → BitVec 8) (s : ℕ → BitVec 8) (j : ℕ) : BitVec 8 :=
  mix ((j + 4) % 4) (s 0) ^^^ mix ((j + 3) % 4) (s 1) ^^^ mix ((j + 2) % 4) (s 2)
    ^^^ mix ((j + 1) % 4) (s 3)

/-- The sum depends on the four bytes of the column. -/
theorem mixed_congr {mix : ℕ → BitVec 8 → BitVec 8} {s t : ℕ → BitVec 8}
    (h : ∀ a < 4, s a = t a) (j : ℕ) : mixed mix s j = mixed mix t j := by
  unfold mixed
  rw [h 0 (by omega), h 1 (by omega), h 2 (by omega), h 3 (by omega)]

/-- `gfmul` by two. -/
theorem gfmul_two (b : BitVec 8) : gfmul b 0x2#4 = xt2 b := by
  show 0x00#8 ^^^ xt2 b ^^^ 0x00#8 ^^^ 0x00#8 = xt2 b
  simp

/-- `gfmul` by three. -/
theorem gfmul_three (b : BitVec 8) : gfmul b 0x3#4 = xt3 b := by
  show b ^^^ xt2 b ^^^ 0x00#8 ^^^ 0x00#8 = b ^^^ xt2 b
  simp

/-- The bytes of `aes_mixcolumn_fwd`. -/
theorem lane_aesMixcolumnFwd (x : BitVec 32) {j : ℕ} (hj : j < 4) :
    lane 8 (aesMixcolumnFwd x) j = mixed mixFwd (lane 8 x) j := by
  have hcol : aesMixcolumnFwd x = mixed mixFwd (lane 8 x) 3 ++ mixed mixFwd (lane 8 x) 2
      ++ mixed mixFwd (lane 8 x) 1 ++ mixed mixFwd (lane 8 x) 0 := by
    simp only [mixed, mixFwd, gfmul_two, gfmul_three, Nat.reduceAdd, Nat.reduceMod]
    rfl
  rw [hcol]
  exact lane_four (mixed mixFwd (lane 8 x)) hj

/-- The bytes of `aes_mixcolumn_inv`. -/
theorem lane_aesMixcolumnInv (x : BitVec 32) {j : ℕ} (hj : j < 4) :
    lane 8 (aesMixcolumnInv x) j = mixed mixInv (lane 8 x) j := by
  have hcol : aesMixcolumnInv x = mixed mixInv (lane 8 x) 3 ++ mixed mixInv (lane 8 x) 2
      ++ mixed mixInv (lane 8 x) 1 ++ mixed mixInv (lane 8 x) 0 := by
    simp only [mixed, mixInv, Nat.reduceAdd, Nat.reduceMod]
    rfl
  rw [hcol]
  exact lane_four (mixed mixInv (lane 8 x)) hj

/-- The contributions of the inverse direction are linear. -/
theorem mixInv_xor (d : ℕ) (x y : BitVec 8) : mixInv d (x ^^^ y) = mixInv d x ^^^ mixInv d y := by
  rcases d with _ | _ | _ | d
  all_goals exact gfmul_xor x y _

/-- The sum of the contributions is linear. -/
theorem mixed_mixInv_xor (s t : ℕ → BitVec 8) (j : ℕ) :
    mixed mixInv (fun a => s a ^^^ t a) j = mixed mixInv s j ^^^ mixed mixInv t j := by
  unfold mixed
  rw [mixInv_xor, mixInv_xor, mixInv_xor, mixInv_xor]
  simp only [BitVec.xor_assoc, xor_left_comm]

/-- Without mixing every byte stays as it is. -/
theorem mixed_mixNone (s : ℕ → BitVec 8) {j : ℕ} (hj : j < 4) : mixed mixNone s j = s j := by
  unfold mixed
  rcases j with _ | _ | _ | _ | j
  · simp [mixNone]
  · simp [mixNone]
  · simp [mixNone]
  · simp [mixNone]
  · omega

/-- The way of byte `b` through both directions: it comes back to its own place, and what it
contributes to the other places cancels, power by power of the generator. -/
theorem mixed_mixInv_mixFwd (x : BitVec 8) {j b : ℕ} (hj : j < 4) (hb : b < 4) :
    mixed mixInv (fun a => mixFwd ((a + (4 - b)) % 4) x) j = mixNone ((j + (4 - b)) % 4) x := by
  have hnine (y : BitVec 8) : gfmul y 0x9#4 = y ^^^ xt2 (xt2 (xt2 y)) := by
    simp [gfmul]
  have heleven (y : BitVec 8) : gfmul y 0xb#4 = y ^^^ xt2 y ^^^ xt2 (xt2 (xt2 y)) := by
    simp [gfmul]
  have hthirteen (y : BitVec 8) :
      gfmul y 0xd#4 = y ^^^ xt2 (xt2 y) ^^^ xt2 (xt2 (xt2 y)) := by
    simp [gfmul]
  have hfourteen (y : BitVec 8) :
      gfmul y 0xe#4 = xt2 y ^^^ xt2 (xt2 y) ^^^ xt2 (xt2 (xt2 y)) := by
    simp [gfmul]
  interval_cases j <;> interval_cases b
  all_goals simp [mixed, mixInv, mixFwd, mixNone, gfmul_two, gfmul_three, xt3, hnine, heleven,
    hthirteen, hfourteen, xt2_xor, BitVec.xor_assoc, BitVec.xor_comm, xor_left_comm]

/-- The inverse direction undoes the forward one. -/
theorem mixed_inv_fwd (s : ℕ → BitVec 8) {j : ℕ} (hj : j < 4) :
    mixed mixInv (mixed mixFwd s) j = s j := by
  calc mixed mixInv (mixed mixFwd s) j
      = mixed mixInv (fun a => mixFwd ((a + 4) % 4) (s 0)) j
        ^^^ mixed mixInv (fun a => mixFwd ((a + 3) % 4) (s 1)) j
        ^^^ mixed mixInv (fun a => mixFwd ((a + 2) % 4) (s 2)) j
        ^^^ mixed mixInv (fun a => mixFwd ((a + 1) % 4) (s 3)) j := by
        rw [← mixed_mixInv_xor, ← mixed_mixInv_xor, ← mixed_mixInv_xor]
        rfl
    _ = mixed mixNone s j := by
        rw [mixed_mixInv_mixFwd _ hj (show 0 < 4 by omega),
          mixed_mixInv_mixFwd _ hj (show 1 < 4 by omega),
          mixed_mixInv_mixFwd _ hj (show 2 < 4 by omega),
          mixed_mixInv_mixFwd _ hj (show 3 < 4 by omega)]
        rfl
    _ = s j := mixed_mixNone s hj

/-- `aes_mixcolumn_inv` undoes `aes_mixcolumn_fwd`. -/
theorem aesMixcolumnInv_fwd (w : BitVec 32) : aesMixcolumnInv (aesMixcolumnFwd w) = w := by
  refine eq_of_lane_eq (show 32 ≤ 8 * 4 by omega) ?_
  intro j hj
  have hbytes : mixed mixInv (lane 8 (aesMixcolumnFwd w)) j
      = mixed mixInv (mixed mixFwd (lane 8 w)) j :=
    mixed_congr (fun a => lane_aesMixcolumnFwd w) j
  rw [lane_aesMixcolumnInv _ hj, hbytes, mixed_inv_fwd _ hj]

/-! ## One byte of the state -/

/-- A rotation of a word by a number of bytes. -/
theorem lane_rotater (v : BitVec 32) {m j : ℕ} (hm : m < 4) (hj : j < 4) :
    lane 8 (rotater v (8 * m)) j = lane 8 v ((j + m) % 4) := by
  apply BitVec.eq_of_getLsbD_eq
  intro i hi
  unfold lane
  rw [BitVec.getLsbD_extractLsb', BitVec.getLsbD_extractLsb',
    getLsbD_rotater v (by omega) (by omega)]
  by_cases h : j + m < 4
  · rw [if_pos (by omega), Nat.mod_eq_of_lt h, show 8 * m + (8 * j + i) = 8 * (j + m) + i by omega]
  · rw [if_neg (by omega), show 8 * m + (8 * j + i) - 32 = 8 * ((j + m) % 4) + i by omega]

/-- The bytes that a clause of RV32 adds to its operand. -/
theorem lane_byteRoundValue {mix : ℕ → BitVec 8 → BitVec 8} {sub : BitVec 8 → BitVec 8}
    {f : BitVec 8 → BitVec 32} (hf : ∀ b, ∀ d < 4, lane 8 (f b) d = mix d (sub b)) (bs : BitVec 2)
    (y x : BitVec 32) {j : ℕ} (hj : j < 4) :
    lane 8 (byteRoundValue bs f y x) j
      = lane 8 x j ^^^ mix ((j + (4 - bs.toNat)) % 4) (sub (lane 8 y bs.toNat)) := by
  have hbs : bs.toNat < 4 := bs.isLt
  have hbyte : bits (y >>> (bs ++ 0b000#3 : BitVec 5)) 0 8 = lane 8 y bs.toNat := by
    have hamount : (bs ++ 0b000#3 : BitVec 5) = BitVec.ofNat 5 (8 * bs.toNat) := by
      revert bs
      decide
    rw [hamount, bits_shift y (show 8 * bs.toNat < 2 ^ 5 by omega)]
    rfl
  show lane 8 (x ^^^ rotateBitsLeft (f (bits (y >>> (bs ++ 0b000#3 : BitVec 5)) 0 8))
    (bs ++ 0b000#3 : BitVec 5)) j = _
  rw [hbyte, rotateBitsLeft_bytes, lane_xor, lane_rotater _ (Nat.mod_lt _ (by omega)) hj,
    hf _ _ (Nat.mod_lt _ (by omega))]
  congr 2
  omega

/-- The instructions for a round, or for the last round, in both directions. -/
inductive AesRound
  | ESM
  | ES
  | DSM
  | DS

/-- The instruction of RV64. -/
def AesRound.aes64 (f : AesRound) (rs2 rs1 rd : Regidx) : ZknInst :=
  match f with
  | .ESM => .AES64ESM rs2 rs1 rd
  | .ES => .AES64ES rs2 rs1 rd
  | .DSM => .AES64DSM rs2 rs1 rd
  | .DS => .AES64DS rs2 rs1 rd

/-- The instruction of RV32 for a byte. -/
def AesRound.aes32 (f : AesRound) (bs : BitVec 2) (rs2 rs1 rd : Regidx) : ZknInst :=
  match f with
  | .ESM => .AES32ESMI bs rs2 rs1 rd
  | .ES => .AES32ESI bs rs2 rs1 rd
  | .DSM => .AES32DSMI bs rs2 rs1 rd
  | .DS => .AES32DSI bs rs2 rs1 rd

/-- The column that byte `a` of column `c` of the next state is computed from. -/
def AesRound.source (f : AesRound) (c a : ℕ) : ℕ :=
  match f with
  | .ESM | .ES => (c + a) % 4
  | .DSM | .DS => (c + 4 - a) % 4

/-- The table. -/
def AesRound.sub (f : AesRound) : BitVec 8 → BitVec 8 :=
  match f with
  | .ESM | .ES => aesSboxFwd
  | .DSM | .DS => aesSboxInv

/-- The contributions of a byte. -/
def AesRound.mix (f : AesRound) : ℕ → BitVec 8 → BitVec 8 :=
  match f with
  | .ESM => mixFwd
  | .DSM => mixInv
  | .ES | .DS => mixNone

/-- What the instruction of RV64 computes. -/
def AesRound.value (f : AesRound) (y x : BitVec 64) : BitVec 64 :=
  match f with
  | .ESM =>
      let sb := aesApplyFwdSboxToEachByte (aesRv64ShiftrowsFwd y x)
      aesMixcolumnFwd (bits sb 32 32) ++ aesMixcolumnFwd (bits sb 0 32)
  | .ES => aesApplyFwdSboxToEachByte (aesRv64ShiftrowsFwd y x)
  | .DSM =>
      let sb := aesApplyInvSboxToEachByte (aesRv64ShiftrowsInv y x)
      aesMixcolumnInv (bits sb 32 32) ++ aesMixcolumnInv (bits sb 0 32)
  | .DS => aesApplyInvSboxToEachByte (aesRv64ShiftrowsInv y x)

/-- The word that the instruction of RV32 makes of a byte. -/
def AesRound.word (f : AesRound) (b : BitVec 8) : BitVec 32 :=
  match f with
  | .ESM => aesMixcolumnByteFwd (aesSboxFwd b)
  | .ES => 0x000000#24 ++ aesSboxFwd b
  | .DSM => aesMixcolumnByteInv (aesSboxInv b)
  | .DS => 0x000000#24 ++ aesSboxInv b

/-- The byte with the rest of the word zero. -/
theorem lane_zero_append (b : BitVec 8) {d : ℕ} (hd : d < 4) :
    lane 8 (0x000000#24 ++ b) d = mixNone d b := by
  rcases d with _ | d
  · exact lane_append_zero _ _
  · rw [lane_append_succ]
    exact BitVec.extractLsb'_zero

/-- The bytes of the word that the instruction of RV32 makes of a byte. -/
theorem AesRound.lane_word (f : AesRound) (b : BitVec 8) {d : ℕ} (hd : d < 4) :
    lane 8 (f.word b) d = f.mix d (f.sub b) := by
  rcases f with _ | _ | _ | _
  · exact lane_four (fun d => mixFwd d (aesSboxFwd b)) hd
  · exact lane_zero_append _ hd
  · exact lane_four (fun d => mixInv d (aesSboxInv b)) hd
  · exact lane_zero_append _ hd

/-! ## The halves and the columns of the next state -/

/-- The bytes of a half that is mixed column by column. -/
theorem lane_mixHalf {mixcolumn : BitVec 32 → BitVec 32} {mix : ℕ → BitVec 8 → BitVec 8}
    (hmix : ∀ x, ∀ j < 4, lane 8 (mixcolumn x) j = mixed mix (lane 8 x) j) (x : BitVec 64)
    {c j : ℕ} (hc : c < 2) (hj : j < 4) :
    lane 8 (mixcolumn (bits x 32 32) ++ mixcolumn (bits x 0 32)) (4 * c + j)
      = mixed mix (fun a => lane 8 x (4 * c + a)) j := by
  have hbytes (a : ℕ) (ha : a < 4) : lane 8 (lane 32 x c) a = lane 8 x (4 * c + a) :=
    lane_lane x (show 32 = 8 * 4 by omega) ha
  have hcol : lane 32 (mixcolumn (bits x 32 32) ++ mixcolumn (bits x 0 32)) c
      = mixcolumn (lane 32 x c) := by
    rcases c with _ | _ | c
    · exact lane_append_zero _ _
    · exact (lane_append_succ _ _ 0).trans (lane_self _)
    · omega
  calc lane 8 (mixcolumn (bits x 32 32) ++ mixcolumn (bits x 0 32)) (4 * c + j)
      = lane 8 (lane 32 (mixcolumn (bits x 32 32) ++ mixcolumn (bits x 0 32)) c) j :=
        (lane_lane _ (show 32 = 8 * 4 by omega) hj).symm
    _ = mixed mix (lane 8 (lane 32 x c)) j := by rw [hcol, hmix _ j hj]
    _ = mixed mix (fun a => lane 8 x (4 * c + a)) j := mixed_congr hbytes j

/-- The bytes of the half that the instruction of RV64 computes. -/
theorem AesRound.lane_value (f : AesRound) (hi lo : BitVec 64) {c j : ℕ} (hc : c < 2)
    (hj : j < 4) :
    lane 8 (f.value hi lo) (4 * c + j)
      = mixed f.mix (fun a => f.sub (lane 8 (hi ++ lo) (4 * f.source c a + a))) j := by
  have hplace (a : ℕ) (ha : a < 4) :
      rowsFwd (4 * c + a) = 4 * ((c + a) % 4) + a
        ∧ rowsInv (4 * c + a) = 4 * ((c + 4 - a) % 4) + a := by
    unfold rowsFwd rowsInv
    constructor <;> congr <;> omega
  have hfwd (a : ℕ) (ha : a < 4) :
      lane 8 (aesApplyFwdSboxToEachByte (aesRv64ShiftrowsFwd hi lo)) (4 * c + a)
        = aesSboxFwd (lane 8 (hi ++ lo) (4 * ((c + a) % 4) + a)) := by
    rw [lane_aesApplyFwdSbox _ (by omega), lane_aesRv64ShiftrowsFwd hi lo (by omega),
      (hplace a ha).1]
  have hinv (a : ℕ) (ha : a < 4) :
      lane 8 (aesApplyInvSboxToEachByte (aesRv64ShiftrowsInv hi lo)) (4 * c + a)
        = aesSboxInv (lane 8 (hi ++ lo) (4 * ((c + 4 - a) % 4) + a)) := by
    rw [lane_aesApplyInvSbox _ (by omega), lane_aesRv64ShiftrowsInv hi lo (by omega),
      (hplace a ha).2]
  rcases f with _ | _ | _ | _
  · refine (lane_mixHalf (fun x j => lane_aesMixcolumnFwd x) _ hc hj).trans ?_
    exact mixed_congr hfwd j
  · refine (hfwd j hj).trans ?_
    exact (mixed_mixNone (fun a => aesSboxFwd (lane 8 (hi ++ lo) (4 * ((c + a) % 4) + a))) hj).symm
  · refine (lane_mixHalf (fun x j => lane_aesMixcolumnInv x) _ hc hj).trans ?_
    exact mixed_congr hinv j
  · refine (hinv j hj).trans ?_
    exact (mixed_mixNone
      (fun a => aesSboxInv (lane 8 (hi ++ lo) (4 * ((c + 4 - a) % 4) + a))) hj).symm

/-- The halves of the next state one above the other, byte by byte. -/
theorem AesRound.lane_state (f : AesRound) (hi lo : BitVec 64) {c j : ℕ} (hc : c < 4)
    (hj : j < 4) :
    lane 8 (f.value lo hi ++ f.value hi lo) (4 * c + j)
      = mixed f.mix (fun a => f.sub (lane 8 (hi ++ lo) (4 * f.source c a + a))) j := by
  rw [lane_halves]
  by_cases h : c < 2
  · rw [if_pos (by omega), f.lane_value hi lo h hj]
  · have hsource (a : ℕ) (ha : a < 4) :
        (4 * f.source (c - 2) a + a + 8) % 16 = 4 * f.source c a + a := by
      rcases f with _ | _ | _ | _
      all_goals
        simp only [AesRound.source]
        omega
    have hlt (a : ℕ) (ha : a < 4) : 4 * f.source (c - 2) a + a < 16 := by
      rcases f with _ | _ | _ | _
      all_goals
        simp only [AesRound.source]
        omega
    rw [if_neg (by omega), show 4 * c + j - 8 = 4 * (c - 2) + j by omega,
      f.lane_value lo hi (by omega) hj]
    refine mixed_congr ?_ j
    intro a ha
    show f.sub _ = f.sub _
    rw [lane_swap hi lo (hlt a ha), hsource a ha]

/-- The inverse last round undoes the forward last round. -/
theorem AesRound.ds_es (hi lo : BitVec 64) :
    AesRound.DS.value (AesRound.ES.value lo hi) (AesRound.ES.value hi lo) = lo := by
  refine eq_of_lane_eq (show 64 ≤ 8 * 8 by omega) ?_
  intro i hlt
  have hplace : rowsFwd (rowsInv i) = i := by
    unfold rowsFwd rowsInv
    omega
  have hstate (k : ℕ) (hk : k < 16) :
      lane 8 (AesRound.ES.value lo hi ++ AesRound.ES.value hi lo) k
        = aesSboxFwd (lane 8 (hi ++ lo) (rowsFwd k)) := by
    have h := AesRound.ES.lane_state hi lo (show k / 4 < 4 by omega) (Nat.mod_lt k (by omega))
    rw [Nat.div_add_mod] at h
    refine h.trans ?_
    exact mixed_mixNone _ (Nat.mod_lt k (by omega))
  show lane 8 (aesApplyInvSboxToEachByte (aesRv64ShiftrowsInv _ _)) i = _
  rw [lane_aesApplyInvSbox _ hlt, lane_aesRv64ShiftrowsInv _ _ hlt, hstate _ (rowsInv_lt i),
    hplace, aesSboxInv_fwd, lane_halves, if_pos hlt]

/-- The halves of what `AES64IM` computes from the result of a round. -/
theorem AesRound.im_esm (hi lo : BitVec 64) :
    aesMixcolumnInv (bits (AesRound.ESM.value hi lo) 32 32)
      ++ aesMixcolumnInv (bits (AesRound.ESM.value hi lo) 0 32) = AesRound.ES.value hi lo := by
  have hlow (a b : BitVec 32) : bits (a ++ b) 0 32 = b := BitVec.extractLsb'_append_eq_right
  have hhigh (a b : BitVec 32) : bits (a ++ b) 32 32 = a := BitVec.extractLsb'_append_eq_left
  let sb := aesApplyFwdSboxToEachByte (aesRv64ShiftrowsFwd hi lo)
  show aesMixcolumnInv (bits (aesMixcolumnFwd (bits sb 32 32) ++ aesMixcolumnFwd (bits sb 0 32))
      32 32) ++ aesMixcolumnInv (bits (aesMixcolumnFwd (bits sb 32 32)
      ++ aesMixcolumnFwd (bits sb 0 32)) 0 32) = sb
  rw [hlow, hhigh, aesMixcolumnInv_fwd, aesMixcolumnInv_fwd]
  exact BitVec.extractLsb'_append_extractLsb'

/-! ## The instructions -/

section

variable [Platform]

/-- The instruction of RV64 for a round computes its value. -/
theorem AesRound.writes_aes64 (f : AesRound) (h64 : xlen = 64) (y x : BitVec 64) :
    WritesTwo f.aes64 y x (f.value y x) := by
  apply writesTwo_binary64 h64
  intro rs2 rs1 rd
  rcases f with _ | _ | _ | _
  all_goals rfl

/-- The instruction of RV32 for a byte computes its value. -/
theorem AesRound.writes_aes32 (f : AesRound) (h32 : xlen = 32) (bs : BitVec 2) (y x : BitVec 32) :
    WritesTwo (f.aes32 bs) y x (byteRoundValue bs f.word y x) := by
  apply writesTwo_byteRound h32
  intro rs2 rs1 rd
  rcases f with _ | _ | _ | _
  all_goals rfl

/-- `AES64IM` applies the inverse direction to both columns of a half. -/
theorem writes_aes64im (h64 : xlen = 64) (x : BitVec 64) :
    WritesOne .AES64IM x (aesMixcolumnInv (bits x 32 32) ++ aesMixcolumnInv (bits x 0 32)) :=
  writesOne_unary64 (g := fun x => aesMixcolumnInv (bits x 32 32) ++ aesMixcolumnInv (bits x 0 32))
    h64 (fun _ _ => rfl) x

/-- Four instructions, one for each byte, that start from `k` in `rs1`, hand their results on and
read the columns `y` in `rs2`, end with `v`. -/
def ByteChain (inst : BitVec 2 → Regidx → Regidx → Regidx → ZknInst) (y : ℕ → BitVec 32)
    (k v : BitVec 32) : Prop :=
  ∃ v0 v1 v2 : BitVec 32, WritesTwo (inst 0#2) (y 0) k v0 ∧ WritesTwo (inst 1#2) (y 1) v0 v1
    ∧ WritesTwo (inst 2#2) (y 2) v1 v2 ∧ WritesTwo (inst 3#2) (y 3) v2 v

/-- The four instructions with one register for the sum. -/
def byteColumn (inst : BitVec 2 → Regidx → Regidx → Regidx → ZknInst) (src : ℕ → Regidx)
    (rd : Regidx) : M Retired := do
  let _ ← (inst 0#2 (src 0) rd rd).execute
  let _ ← (inst 1#2 (src 1) rd rd).execute
  let _ ← (inst 2#2 (src 2) rd rd).execute
  (inst 3#2 (src 3) rd rd).execute

/-- The sum is collected in its register when that is none of those that hold the columns. -/
theorem ByteChain.run {inst : BitVec 2 → Regidx → Regidx → Regidx → ZknInst} {y : ℕ → BitVec 32}
    {k v : BitVec 32} (h : ByteChain inst y k v) {src : ℕ → Regidx} {rd : Regidx} {s : State}
    (hk : s.X rd = k.setWidth xlen) (hy : ∀ a < 4, s.X (src a) = (y a).setWidth xlen)
    (hrd : rd ≠ 0#5) (hsrc : ∀ a < 4, src a ≠ rd) :
    (byteColumn inst src rd).run s = .ok (.RETIRE_SUCCESS, s.setX rd (v.setWidth xlen)) := by
  obtain ⟨v0, v1, v2, h0, h1, h2, h3⟩ := h
  have hsum (w : Xlenbits) : (s.setX rd w).X rd = w := by
    rw [State.X_setX, if_pos ⟨rfl, hrd⟩]
  have hkeep (w : Xlenbits) (a : ℕ) (ha : a < 4) :
      (s.setX rd w).X (src a) = (y a).setWidth xlen := by
    rw [State.X_setX, if_neg (fun hw => hsrc a ha hw.1), hy a ha]
  have run0 := h0 (src 0) rd rd s (hy 0 (by omega)) hk
  have run1 := h1 (src 1) rd rd _ (hkeep _ 1 (by omega)) (hsum _)
  have run2 := h2 (src 2) rd rd _ (hkeep _ 2 (by omega)) (hsum _)
  have run3 := h3 (src 3) rd rd _ (hkeep _ 3 (by omega)) (hsum _)
  rw [State.setX_setX] at run1 run2 run3
  unfold byteColumn
  rw [Exec.run_bind_of_ok run0, Exec.run_bind_of_ok run1, Exec.run_bind_of_ok run2]
  exact run3

/-- The four instructions of RV32 for a column of the next state. -/
theorem AesRound.byteChain (f : AesRound) (h32 : xlen = 32) (hi lo : BitVec 64) {c : ℕ} (hc : c < 4)
    (k : BitVec 32) :
    ByteChain f.aes32 (fun a => aesGetColumn (hi ++ lo) (f.source c a)) k
      (aesGetColumn (f.value lo hi ++ f.value hi lo) c ^^^ k) := by
  let y (a : ℕ) : BitVec 32 := aesGetColumn (hi ++ lo) (f.source c a)
  let v0 := byteRoundValue 0#2 f.word (y 0) k
  let v1 := byteRoundValue 1#2 f.word (y 1) v0
  let v2 := byteRoundValue 2#2 f.word (y 2) v1
  have hlast : byteRoundValue 3#2 f.word (y 3) v2
      = aesGetColumn (f.value lo hi ++ f.value hi lo) c ^^^ k := by
    refine eq_of_lane_eq (show 32 ≤ 8 * 4 by omega) ?_
    intro j hj
    have hbyte (a : ℕ) (ha : a < 4) :
        lane 8 (y a) a = lane 8 (hi ++ lo) (4 * f.source c a + a) := by
      have hsource : f.source c a < 4 := by
        rcases f with _ | _ | _ | _
        all_goals exact Nat.mod_lt _ (by omega)
      show lane 8 (aesGetColumn (hi ++ lo) (f.source c a)) a = _
      rw [aesGetColumn_eq_lane _ hsource, lane_lane _ (show 32 = 8 * 4 by omega) ha]
    have hword := fun b d (hd : d < 4) => f.lane_word b hd
    calc lane 8 (byteRoundValue 3#2 f.word (y 3) v2) j
        = lane 8 k j ^^^ f.mix ((j + 4) % 4) (f.sub (lane 8 (y 0) 0))
          ^^^ f.mix ((j + 3) % 4) (f.sub (lane 8 (y 1) 1))
          ^^^ f.mix ((j + 2) % 4) (f.sub (lane 8 (y 2) 2))
          ^^^ f.mix ((j + 1) % 4) (f.sub (lane 8 (y 3) 3)) := by
          rw [lane_byteRoundValue hword _ _ _ hj, lane_byteRoundValue hword _ _ _ hj,
            lane_byteRoundValue hword _ _ _ hj, lane_byteRoundValue hword _ _ _ hj]
          rfl
      _ = lane 8 k j ^^^ mixed f.mix (fun a => f.sub (lane 8 (y a) a)) j := by
          unfold mixed
          simp only [BitVec.xor_assoc]
      _ = lane 8 k j ^^^ lane 8 (f.value lo hi ++ f.value hi lo) (4 * c + j) := by
          rw [f.lane_state hi lo hc hj]
          congr 1
          refine mixed_congr ?_ j
          intro a ha
          show f.sub _ = f.sub _
          rw [hbyte a ha]
      _ = lane 8 (aesGetColumn (f.value lo hi ++ f.value hi lo) c ^^^ k) j := by
          rw [lane_xor, aesGetColumn_eq_lane _ hc, lane_lane _ (show 32 = 8 * 4 by omega) hj,
            BitVec.xor_comm]
  refine ⟨v0, v1, v2, f.writes_aes32 h32 _ _ _, f.writes_aes32 h32 _ _ _,
    f.writes_aes32 h32 _ _ _, ?_⟩
  rw [← hlast]
  exact f.writes_aes32 h32 _ _ _

end

/-! ## The rounds -/

/-- **The rounds of AES invert each other and agree across the widths.**
The inverse last round on both halves of what the forward last round computes gives the state
back; so does it on both halves of a full round after `AES64IM`, which undoes the mixing of the
columns; and the four instructions of RV32 for a column, whatever registers they use, compute that
column of the state that the instructions of RV64 compute, with the round key added. -/
theorem aes_rounds (P Q : Platform) (hP : P.xlen = 64) (hQ : Q.xlen = 32) :
    (∀ hi lo : BitVec 64, ∃ hi' lo' : BitVec 64,
      @WritesTwo P 64 .AES64ES hi lo lo' ∧ @WritesTwo P 64 .AES64ES lo hi hi'
      ∧ @WritesTwo P 64 .AES64DS hi' lo' lo ∧ @WritesTwo P 64 .AES64DS lo' hi' hi)
    ∧ (∀ w : BitVec 32, aesMixcolumnInv (aesMixcolumnFwd w) = w)
    ∧ (∀ hi lo : BitVec 64, ∃ hiM loM hi' lo' : BitVec 64,
      @WritesTwo P 64 .AES64ESM hi lo loM ∧ @WritesTwo P 64 .AES64ESM lo hi hiM
      ∧ @WritesOne P 64 .AES64IM loM lo' ∧ @WritesOne P 64 .AES64IM hiM hi'
      ∧ @WritesTwo P 64 .AES64DS hi' lo' lo ∧ @WritesTwo P 64 .AES64DS lo' hi' hi)
    ∧ (∀ (f : AesRound) (hi lo : BitVec 64), ∃ hi' lo' : BitVec 64,
      @WritesTwo P 64 f.aes64 hi lo lo' ∧ @WritesTwo P 64 f.aes64 lo hi hi'
      ∧ ∀ c < 4, ∀ k : BitVec 32,
        @ByteChain Q f.aes32 (fun a => aesGetColumn (hi ++ lo) (f.source c a)) k
          (aesGetColumn (hi' ++ lo') c ^^^ k)) := by
  have hDS (hi lo : BitVec 64) :
      @WritesTwo P 64 .AES64DS (AesRound.ES.value lo hi) (AesRound.ES.value hi lo) lo := by
    have h := @AesRound.writes_aes64 P .DS hP (AesRound.ES.value lo hi) (AesRound.ES.value hi lo)
    rwa [AesRound.ds_es hi lo] at h
  have hIM (hi lo : BitVec 64) :
      @WritesOne P 64 .AES64IM (AesRound.ESM.value hi lo) (AesRound.ES.value hi lo) := by
    have h := @writes_aes64im P hP (AesRound.ESM.value hi lo)
    rwa [AesRound.im_esm hi lo] at h
  refine ⟨?_, aesMixcolumnInv_fwd, ?_, ?_⟩
  · intro hi lo
    exact ⟨_, _, @AesRound.writes_aes64 P .ES hP hi lo, @AesRound.writes_aes64 P .ES hP lo hi,
      hDS hi lo, hDS lo hi⟩
  · intro hi lo
    exact ⟨_, _, _, _, @AesRound.writes_aes64 P .ESM hP hi lo,
      @AesRound.writes_aes64 P .ESM hP lo hi, hIM hi lo, hIM lo hi, hDS hi lo, hDS lo hi⟩
  · intro f hi lo
    refine ⟨_, _, @AesRound.writes_aes64 P f hP hi lo, @AesRound.writes_aes64 P f hP lo hi, ?_⟩
    intro c hc k
    exact @AesRound.byteChain Q f hQ hi lo c hc k

/-- The rounds on RV64 and RV32 as they are built. -/
theorem aes_rounds_built :
    (∀ w : BitVec 32, aesMixcolumnInv (aesMixcolumnFwd w) = w)
    ∧ ∃ hi' lo' : BitVec 64,
      @WritesTwo (rv64Pmp 0 (by decide)) 64 .AES64ES 1#64 2#64 lo'
      ∧ @WritesTwo (rv64Pmp 0 (by decide)) 64 .AES64ES 2#64 1#64 hi'
      ∧ @WritesTwo (rv64Pmp 0 (by decide)) 64 .AES64DS hi' lo' 2#64
      ∧ @WritesTwo (rv64Pmp 0 (by decide)) 64 .AES64DS lo' hi' 1#64 := by
  have h := aes_rounds (rv64Pmp 0 (by decide)) (rv32Pmp 0 (by decide)) rfl rfl
  exact ⟨h.2.1, h.1 1#64 2#64⟩

end SailRiscv
