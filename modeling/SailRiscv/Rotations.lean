/-
# Rotations and permutations of bits

The rotations of the prelude and the loops of `RISCV_REV8`, `RISCV_BREV8`, `RISCV_ZIP` and
`RISCV_UNZIP` gather each bit of the result from one bit of the operand. What they do one after
the other is read off their maps of the indices.
-/
import SailRiscv.Lib.Gather
import SailRiscv.Insts.Bext
import SailRiscv.Insts.Kext

namespace SailRiscv

open Bits Platform

/-! ## Rotations by an integer -/

section

variable {n : ℕ}

/-- The bits of a rotation to the right. -/
theorem getLsbD_rotater (v : BitVec n) {k i : ℕ} (hk : k ≤ n) (hi : i < n) :
    (rotater v k).getLsbD i = if k + i < n then v.getLsbD (k + i) else v.getLsbD (k + i - n) := by
  unfold rotater
  rw [BitVec.getLsbD_or, BitVec.getLsbD_ushiftRight, BitVec.getLsbD_shiftLeft, decide_eq_true hi,
    Bool.true_and]
  by_cases hin : k + i < n
  · rw [if_pos hin, decide_eq_true (show i < n - k by omega), Bool.not_true, Bool.false_and,
      Bool.or_false]
  · rw [if_neg hin, decide_eq_false (show ¬ i < n - k by omega), Bool.not_false, Bool.true_and,
      BitVec.getLsbD_of_ge v _ (by omega), Bool.false_or, show i - (n - k) = k + i - n by omega]

/-- `rotater` turns the indices. -/
theorem gathers_rotater (v : BitVec n) {k : ℕ} (hk : k ≤ n) :
    Gathers (turn n k) v (rotater v k) := by
  intro i hi
  rw [getLsbD_rotater v hk hi, turn_eq hk hi]
  split_ifs <;> rfl

/-- A rotation to the left is one to the right by the rest of the width. -/
theorem rotatel_eq_rotater (v : BitVec n) {k : ℕ} (hk : k ≤ n) :
    rotatel v k = rotater v (n - k) := by
  unfold rotatel rotater
  rw [show n - (n - k) = k by omega, BitVec.or_comm]

/-- `rotatel` turns the indices back. -/
theorem gathers_rotatel (v : BitVec n) {k : ℕ} (hk : k ≤ n) :
    Gathers (turn n (n - k)) v (rotatel v k) := by
  rw [rotatel_eq_rotater v hk]
  exact gathers_rotater v (Nat.sub_le n k)

/-- Turning by an amount and by the rest of the width. -/
theorem turn_turn_sub {k i : ℕ} (hk : k ≤ n) (hi : i < n) :
    turn n k (turn n (n - k) i) = i := by
  rw [turn_turn, Nat.sub_add_cancel hk, turn_self hi]

/-- The same, in the other order. -/
theorem turn_sub_turn {k i : ℕ} (hk : k ≤ n) (hi : i < n) :
    turn n (n - k) (turn n k i) = i := by
  rw [turn_turn, Nat.add_sub_cancel' hk, turn_self hi]

end

/-! ## Rotations by a bit vector -/

section

variable {k : ℕ}

/-- The complementary amount, which wraps around when the amount is zero. -/
theorem toNat_complement (n : BitVec k) :
    (BitVec.ofNat k (2 ^ k) - n).toNat = if n.toNat = 0 then 0 else 2 ^ k - n.toNat := by
  have hn := n.isLt
  rw [BitVec.toNat_sub, BitVec.toNat_ofNat, Nat.mod_self, Nat.add_zero]
  split_ifs with h
  · rw [h, Nat.sub_zero, Nat.mod_self]
  · exact Nat.mod_eq_of_lt (by omega)

/-- **`rotate_bits_right` rotates by the value of the amount.** At zero the second shift is by
zero as well, so that it adds the vector to itself. -/
theorem rotateBitsRight_eq (v : BitVec (2 ^ k)) (n : BitVec k) :
    rotateBitsRight v n = rotater v n.toNat := by
  unfold rotateBitsRight rotater
  rw [BitVec.ushiftRight_eq', BitVec.shiftLeft_eq', toNat_complement]
  split_ifs with h
  · rw [h, BitVec.ushiftRight_zero, BitVec.shiftLeft_zero, BitVec.or_self, Nat.sub_zero,
      BitVec.shiftLeft_eq_zero (le_refl _), BitVec.or_zero]
  · rfl

/-- **`rotate_bits_left` rotates by the value of the amount.** -/
theorem rotateBitsLeft_eq (v : BitVec (2 ^ k)) (n : BitVec k) :
    rotateBitsLeft v n = rotatel v n.toNat := by
  unfold rotateBitsLeft rotatel
  rw [BitVec.ushiftRight_eq', BitVec.shiftLeft_eq', toNat_complement]
  split_ifs with h
  · rw [h, BitVec.ushiftRight_zero, BitVec.shiftLeft_zero, BitVec.or_self, Nat.sub_zero,
      BitVec.ushiftRight_eq_zero (le_refl _), BitVec.or_zero]
  · rfl

/-- The index map of `rotate_bits_right`. -/
theorem gathers_rotateBitsRight (v : BitVec (2 ^ k)) (n : BitVec k) :
    Gathers (turn (2 ^ k) n.toNat) v (rotateBitsRight v n) := by
  rw [rotateBitsRight_eq]
  exact gathers_rotater v n.isLt.le

/-- The index map of `rotate_bits_left`. -/
theorem gathers_rotateBitsLeft (v : BitVec (2 ^ k)) (n : BitVec k) :
    Gathers (turn (2 ^ k) (2 ^ k - n.toNat)) v (rotateBitsLeft v n) := by
  rw [rotateBitsLeft_eq]
  exact gathers_rotatel v n.isLt.le

/-- A rotation to the left undoes the one to the right. -/
theorem rotateBitsLeft_rotateBitsRight (v : BitVec (2 ^ k)) (n : BitVec k) :
    rotateBitsLeft (rotateBitsRight v n) n = v :=
  (gathers_rotateBitsRight v n).cancel (gathers_rotateBitsLeft _ n) (maps_turn _ _)
    (fun _ hi => turn_turn_sub n.isLt.le hi)

/-- A rotation to the right undoes the one to the left. -/
theorem rotateBitsRight_rotateBitsLeft (v : BitVec (2 ^ k)) (n : BitVec k) :
    rotateBitsRight (rotateBitsLeft v n) n = v :=
  (gathers_rotateBitsLeft v n).cancel (gathers_rotateBitsRight _ n) (maps_turn _ _)
    (fun _ hi => turn_sub_turn n.isLt.le hi)

/-- The amounts add up, modulo the width. -/
theorem rotateBitsRight_rotateBitsRight (v : BitVec (2 ^ k)) (m n : BitVec k) :
    rotateBitsRight (rotateBitsRight v m) n = rotateBitsRight v (m + n) := by
  have htwo := (gathers_rotateBitsRight v m).trans (gathers_rotateBitsRight _ n) (maps_turn _ _)
  refine htwo.unique (gathers_rotateBitsRight v (m + n)) (fun i _ => ?_)
  rw [Function.comp_apply, turn_turn, BitVec.toNat_add, turn_mod, Nat.add_comm]

/-- The amounts add up to the left as well: both sides rotate back to the same vector. -/
theorem rotateBitsLeft_rotateBitsLeft (v : BitVec (2 ^ k)) (m n : BitVec k) :
    rotateBitsLeft (rotateBitsLeft v m) n = rotateBitsLeft v (m + n) := by
  have hback : rotateBitsRight (rotateBitsLeft (rotateBitsLeft v m) n) (m + n) = v := by
    rw [BitVec.add_comm, ← rotateBitsRight_rotateBitsRight, rotateBitsRight_rotateBitsLeft,
      rotateBitsRight_rotateBitsLeft]
  calc rotateBitsLeft (rotateBitsLeft v m) n
      = rotateBitsLeft (rotateBitsRight (rotateBitsLeft (rotateBitsLeft v m) n) (m + n))
          (m + n) := (rotateBitsLeft_rotateBitsRight _ _).symm
    _ = rotateBitsLeft v (m + n) := by rw [hback]

/-- `rotater` agrees with `rotate_bits_right`, the full width included. -/
theorem rotater_eq_rotateBitsRight (v : BitVec (2 ^ k)) {n : ℕ} (hn : n ≤ 2 ^ k) :
    rotater v n = rotateBitsRight v (BitVec.ofNat k n) := by
  refine (gathers_rotater v hn).unique (gathers_rotateBitsRight v _) (fun i _ => ?_)
  rw [BitVec.toNat_ofNat, turn_mod]

/-- `rotatel` agrees with `rotate_bits_left`, the full width included. -/
theorem rotatel_eq_rotateBitsLeft (v : BitVec (2 ^ k)) {n : ℕ} (hn : n ≤ 2 ^ k) :
    rotatel v n = rotateBitsLeft v (BitVec.ofNat k n) := by
  have hback : rotateBitsRight (rotatel v n) (BitVec.ofNat k n) = v := by
    rw [← rotater_eq_rotateBitsRight _ hn]
    exact (gathers_rotatel v hn).cancel (gathers_rotater _ hn) (maps_turn _ _)
      (fun _ hi => turn_sub_turn hn hi)
  rw [← rotateBitsLeft_rotateBitsRight (rotatel v n) (BitVec.ofNat k n), hback]

/-- `rotate_bits_left` by a number of bytes. -/
theorem rotateBitsLeft_bytes (v : BitVec 32) (bs : BitVec 2) :
    rotateBitsLeft v (bs ++ 0b000#3 : BitVec 5) = rotater v (8 * ((4 - bs.toNat) % 4)) := by
  have hbs : bs = 0#2 ∨ bs = 1#2 ∨ bs = 2#2 ∨ bs = 3#2 := by
    revert bs
    decide
  have hleft (n : BitVec 5) : rotateBitsLeft v n = rotater v (32 - n.toNat) :=
    (rotateBitsLeft_eq (k := 5) v n).trans (rotatel_eq_rotater v n.isLt.le)
  rcases hbs with rfl | rfl | rfl | rfl
  · rw [hleft]
    exact (gathers_rotater v (le_refl 32)).unique (gathers_rotater v (Nat.zero_le 32))
      (fun i _ => (turn_mod 32 32 i).symm)
  · exact hleft _
  · exact hleft _
  · exact hleft _

/-- Rotations by integers add up to one by less than the width. -/
theorem rotater_rotater (v : BitVec (2 ^ k)) {m n : ℕ} (hm : m ≤ 2 ^ k) (hn : n ≤ 2 ^ k) :
    rotater (rotater v m) n = rotater v ((m + n) % 2 ^ k) := by
  rw [rotater_eq_rotateBitsRight _ hn, rotater_eq_rotateBitsRight _ hm,
    rotateBitsRight_rotateBitsRight, rotateBitsRight_eq, BitVec.toNat_add, BitVec.toNat_ofNat,
    BitVec.toNat_ofNat, Nat.mod_add_mod, Nat.add_mod_mod]

/-- Rotations to the left add up likewise. -/
theorem rotatel_rotatel (v : BitVec (2 ^ k)) {m n : ℕ} (hm : m ≤ 2 ^ k) (hn : n ≤ 2 ^ k) :
    rotatel (rotatel v m) n = rotatel v ((m + n) % 2 ^ k) := by
  rw [rotatel_eq_rotateBitsLeft _ hn, rotatel_eq_rotateBitsLeft _ hm,
    rotateBitsLeft_rotateBitsLeft, rotateBitsLeft_eq, BitVec.toNat_add, BitVec.toNat_ofNat,
    BitVec.toNat_ofNat, Nat.mod_add_mod, Nat.add_mod_mod]

end

/-! ## The loops -/

section

variable {m : ℕ}

/-- The bits of a vector that is built range by range. -/
theorem getLsbD_forUp_setRange {w : ℕ} (n : ℕ) (f : ℕ → BitVec w) {i : ℕ}
    (hi : i < m) :
    (forUp n (0#m) fun j r => setRange r (w * j) (f j)).getLsbD i
      = (decide (i < w * n) && (f (i / w)).getLsbD (i % w)) := by
  induction n with
  | zero =>
      rw [forUp, BitVec.getLsbD_zero, Nat.mul_zero]
      simp
  | succ n ih =>
      rw [forUp, getLsbD_setRange, ih, Nat.mul_succ]
      by_cases hrange : w * n ≤ i ∧ i < w * n + w
      · obtain ⟨hlo, hhi⟩ := hrange
        have hdiv : i / w = n := by
          rw [Nat.mul_comm] at hlo hhi
          exact Nat.div_eq_of_lt_le hlo (by rwa [Nat.succ_mul])
        have hmod : i % w = i - w * n := by
          rw [Nat.mod_def, hdiv]
        rw [if_pos ⟨hi, hlo, hhi⟩, hdiv, hmod, decide_eq_true hhi, Bool.true_and]
      · rw [if_neg (fun h => hrange h.2)]
        congr 1
        rw [decide_eq_decide]
        omega

/-- The loop of `RISCV_ZIP`: the bits alternate between two sources. -/
theorem getLsbD_forUp_zip (n j : ℕ) (f g : ℕ → Bool) (hj : j < m) :
    (forUp n (0#m) fun i r => setBit (setBit r (i * 2) (f i)) (i * 2 + 1) (g i)).getLsbD j
      = (decide (j < 2 * n) && if j % 2 = 0 then f (j / 2) else g (j / 2)) := by
  induction n with
  | zero =>
      rw [forUp, BitVec.getLsbD_zero]
      simp
  | succ n ih =>
      rw [forUp, getLsbD_setBit, getLsbD_setBit, ih]
      by_cases hodd : j = n * 2 + 1
      · subst hodd
        rw [if_pos rfl, if_neg (by omega), decide_eq_true hj, decide_eq_true (by omega),
          show (n * 2 + 1) / 2 = n by omega]
      rw [if_neg hodd]
      by_cases heven : j = n * 2
      · subst heven
        rw [if_pos rfl, if_pos (by omega), decide_eq_true hj, decide_eq_true (by omega),
          Nat.mul_div_cancel n (by omega)]
      · rw [if_neg heven]
        congr 1
        rw [decide_eq_decide]
        omega

/-- The loop of `RISCV_UNZIP`: one source fills the lower half, the other the upper. -/
theorem getLsbD_forUp_unzip (h n j : ℕ) (f g : ℕ → Bool) (hn : n ≤ h) (hj : j < m) :
    (forUp n (0#m) fun i r => setBit (setBit r i (f i)) (i + h) (g i)).getLsbD j
      = if j < h then decide (j < n) && f j else decide (j < h + n) && g (j - h) := by
  induction n with
  | zero =>
      rw [forUp, BitVec.getLsbD_zero]
      split_ifs with hlow
      · simp
      · rw [decide_eq_false (by omega), Bool.false_and]
  | succ n ih =>
      rw [forUp, getLsbD_setBit, getLsbD_setBit, ih (by omega)]
      by_cases hhi : j = n + h
      · subst hhi
        rw [if_pos rfl, if_neg (by omega), decide_eq_true hj, decide_eq_true (by omega),
          Nat.add_sub_cancel]
      rw [if_neg hhi]
      by_cases hlo : j = n
      · subst hlo
        rw [if_pos rfl, if_pos (by omega), decide_eq_true hj, decide_eq_true (by omega)]
      rw [if_neg hlo]
      split_ifs with hlow
      · congr 1
        rw [decide_eq_decide]
        omega
      · congr 1
        rw [decide_eq_decide]
        omega

end

/-! ## Permutations of the bits of a register -/

/-- `reverse_bits_in_byte`. -/
def reverseBitsInByte (xs : BitVec 8) : BitVec 8 :=
  forUp 8 0#8 (fun i ys => setBit ys i (xs.getLsbD (7 - i)))

/-- The loop over the bits of a byte reverses it. -/
theorem reverseBitsInByte_eq (xs : BitVec 8) : reverseBitsInByte xs = xs.reverse := by
  apply BitVec.eq_of_getLsbD_eq
  intro i hi
  unfold reverseBitsInByte
  rw [getLsbD_forUp_setBit, decide_eq_true (by omega), Bool.true_and, BitVec.getLsbD_reverse,
    BitVec.getMsbD_eq_getLsbD, decide_eq_true hi, Bool.true_and]

section

variable [Platform]

/-- The place in the same byte, counted from the other end. -/
def mirrorBit (i : ℕ) : ℕ := 8 * (i / 8) + (7 - i % 8)

/-- The place in the byte counted from the other end of the register. -/
def mirrorByte (i : ℕ) : ℕ := xlen - 8 * (i / 8) - 8 + i % 8

/-- Where `RISCV_ZIP` takes a bit from: the halves alternate. -/
def zipIndex (i : ℕ) : ℕ := if i % 2 = 0 then i / 2 else i / 2 + xlen / 2

/-- Where `RISCV_UNZIP` takes a bit from: the even bits, then the odd ones. -/
def unzipIndex (i : ℕ) : ℕ := if i < xlen / 2 then i * 2 else (i - xlen / 2) * 2 + 1

/-- The loop of `RISCV_BREV8`, with the reversal that the source calls. -/
theorem brev8_eq (v : Xlenbits) : brev8 v
    = forUp xlenBytes 0#_ (fun i result =>
        setRange result (8 * i) (reverseBitsInByte (bits v (8 * i) 8))) := by
  unfold brev8
  simp only [reverseBitsInByte_eq]

/-- The index map of `RISCV_BREV8`. -/
theorem gathers_brev8 (v : Xlenbits) : Gathers mirrorBit v (brev8 v) := by
  intro i hi
  have hin : i < 8 * xlenBytes := by
    unfold xlenBytes
    rcases Platform.xlen_eq with hx | hx <;> omega
  have hmod : i % 8 < 8 := Nat.mod_lt i (by omega)
  unfold brev8 mirrorBit
  rw [getLsbD_forUp_setRange _ _ hi, decide_eq_true hin, Bool.true_and, BitVec.getLsbD_reverse,
    BitVec.getMsbD_eq_getLsbD, decide_eq_true hmod, Bool.true_and]
  unfold bits
  rw [BitVec.getLsbD_extractLsb', decide_eq_true (by omega), Bool.true_and]

/-- The index map of `RISCV_REV8`. -/
theorem gathers_rev8 (v : Xlenbits) : Gathers mirrorByte v (rev8 v) := by
  intro i hi
  have hin : i < 8 * (xlen / 8) := by
    rcases Platform.xlen_eq with hx | hx <;> omega
  have hmod : i % 8 < 8 := Nat.mod_lt i (by omega)
  unfold rev8 mirrorByte
  rw [getLsbD_forUp_setRange _ _ hi, decide_eq_true hin, Bool.true_and,
    BitVec.getLsbD_extractLsb', decide_eq_true hmod, Bool.true_and]

/-- The index map of `RISCV_ZIP`. -/
theorem gathers_zipBits (v : Xlenbits) : Gathers zipIndex v (zipBits v) := by
  intro i hi
  have hhalf : xlenBytes * 4 = xlen / 2 := xlenBytes_mul_four
  have hin : i < 2 * (xlenBytes * 4) := by
    rcases Platform.xlen_eq with hx | hx <;> omega
  unfold zipBits zipIndex
  rw [getLsbD_forUp_zip _ _ _ _ hi, decide_eq_true hin, Bool.true_and, hhalf]
  split_ifs <;> rfl

/-- The index map of `RISCV_UNZIP`. -/
theorem gathers_unzipBits (v : Xlenbits) : Gathers unzipIndex v (unzipBits v) := by
  intro i hi
  have hhalf : xlenBytes * 4 = xlen / 2 := xlenBytes_mul_four
  unfold unzipBits unzipIndex
  rw [getLsbD_forUp_unzip _ _ _ _ _ (le_refl _) hi, hhalf]
  split_ifs with hlow
  · rw [decide_eq_true hlow, Bool.true_and]
  · rw [decide_eq_true (by rcases Platform.xlen_eq with hx | hx <;> omega), Bool.true_and]

/-- Reversing the bits of each byte twice changes nothing. -/
theorem brev8_brev8 (v : Xlenbits) : brev8 (brev8 v) = v := by
  refine (gathers_brev8 v).cancel (gathers_brev8 _) (fun i hi => ?_) (fun i _ => ?_)
  · unfold mirrorBit
    rcases Platform.xlen_eq with hx | hx <;> omega
  · unfold mirrorBit
    omega

/-- Reversing the bytes twice changes nothing. -/
theorem rev8_rev8 (v : Xlenbits) : rev8 (rev8 v) = v := by
  refine (gathers_rev8 v).cancel (gathers_rev8 _) (fun i hi => ?_) (fun i hi => ?_)
  · unfold mirrorByte
    rcases Platform.xlen_eq with hx | hx <;> omega
  · unfold mirrorByte
    rcases Platform.xlen_eq with hx | hx <;> omega

/-- The indices of `RISCV_ZIP` stay in the register. -/
theorem maps_zipIndex : Maps xlen zipIndex := by
  intro i hi
  unfold zipIndex
  rcases Platform.xlen_eq with hx | hx <;> split_ifs <;> omega

/-- The indices of `RISCV_UNZIP` stay in the register. -/
theorem maps_unzipIndex : Maps xlen unzipIndex := by
  intro i hi
  unfold unzipIndex
  rcases Platform.xlen_eq with hx | hx <;> split_ifs <;> omega

/-- The two maps are inverse to each other. -/
theorem zipIndex_unzipIndex (i : ℕ) : zipIndex (unzipIndex i) = i := by
  unfold zipIndex unzipIndex
  split_ifs <;> omega

theorem unzipIndex_zipIndex {i : ℕ} (hi : i < xlen) : unzipIndex (zipIndex i) = i := by
  unfold zipIndex unzipIndex
  rcases Platform.xlen_eq with hx | hx <;> split_ifs <;> omega

/-- `RISCV_UNZIP` undoes `RISCV_ZIP`. -/
theorem unzipBits_zipBits (v : Xlenbits) : unzipBits (zipBits v) = v :=
  (gathers_zipBits v).cancel (gathers_unzipBits _) maps_unzipIndex
    (fun i _ => zipIndex_unzipIndex i)

/-- `RISCV_ZIP` undoes `RISCV_UNZIP`. -/
theorem zipBits_unzipBits (v : Xlenbits) : zipBits (unzipBits v) = v :=
  (gathers_unzipBits v).cancel (gathers_zipBits _) maps_zipIndex
    (fun _ hi => unzipIndex_zipIndex hi)

/-- **The rotations and the permutations of bits.**  `rotate_bits_right` moves the bit at
`i + n` modulo the width to `i`, `rotate_bits_left` is its inverse, the amounts of both add up, and
the rotations by an integer agree with them from zero to the full width. `brev8` and `rev8` are
their own inverses, and the loops of `zip` and `unzip` are inverse to each other. -/
theorem rotations_permutations :
    (∀ (k : ℕ) (v : BitVec (2 ^ k)) (n : BitVec k),
      (∀ i < 2 ^ k, (rotateBitsRight v n).getLsbD i = v.getLsbD ((i + n.toNat) % 2 ^ k))
      ∧ rotateBitsLeft (rotateBitsRight v n) n = v
      ∧ rotateBitsRight (rotateBitsLeft v n) n = v
      ∧ ∀ m : BitVec k, rotateBitsRight (rotateBitsRight v m) n = rotateBitsRight v (m + n)
        ∧ rotateBitsLeft (rotateBitsLeft v m) n = rotateBitsLeft v (m + n))
    ∧ (∀ (k : ℕ) (v : BitVec (2 ^ k)) (n : ℕ), n ≤ 2 ^ k →
      rotater v n = rotateBitsRight v (BitVec.ofNat k n)
      ∧ rotatel v n = rotateBitsLeft v (BitVec.ofNat k n)
      ∧ ∀ m ≤ 2 ^ k, rotater (rotater v m) n = rotater v ((m + n) % 2 ^ k)
        ∧ rotatel (rotatel v m) n = rotatel v ((m + n) % 2 ^ k))
    ∧ (∀ v : Xlenbits, brev8 (brev8 v) = v ∧ rev8 (rev8 v) = v)
    ∧ ∀ v : Xlenbits, unzipBits (zipBits v) = v ∧ zipBits (unzipBits v) = v := by
  refine ⟨?_, ?_, ?_, ?_⟩
  · intro k v n
    refine ⟨gathers_rotateBitsRight v n, rotateBitsLeft_rotateBitsRight v n,
      rotateBitsRight_rotateBitsLeft v n, fun m => ?_⟩
    exact ⟨rotateBitsRight_rotateBitsRight v m n, rotateBitsLeft_rotateBitsLeft v m n⟩
  · intro k v n hn
    refine ⟨rotater_eq_rotateBitsRight v hn, rotatel_eq_rotateBitsLeft v hn, fun m hm => ?_⟩
    exact ⟨rotater_rotater v hm hn, rotatel_rotatel v hm hn⟩
  · intro v
    exact ⟨brev8_brev8 v, rev8_rev8 v⟩
  · intro v
    exact ⟨unzipBits_zipBits v, zipBits_unzipBits v⟩

end

/-- A rotation of a word by its full width, and one after it. -/
theorem rotations_permutations_word :
    letI := rv64Pmp 16 (by decide)
    rotater 0x12345678#32 32 = rotateBitsRight 0x12345678#32 0#5
      ∧ rotater (rotater 0x12345678#32 32) 8 = rotater 0x12345678#32 8
      ∧ brev8 (brev8 0x0123456789ABCDEF#64) = 0x0123456789ABCDEF#64 := by
  let := rv64Pmp 16 (by decide)
  obtain ⟨-, hint, hperm, -⟩ := rotations_permutations
  have hfull := hint 5 0x12345678#32 32 (by decide)
  have hnext := hint 5 0x12345678#32 8 (by decide)
  exact ⟨hfull.1, (hnext.2.2 32 (by decide)).1, (hperm 0x0123456789ABCDEF#64).1⟩

/-! ## The instructions -/

section

variable [Platform]

/-- One instruction after another. -/
def inOrder (first second : M Retired) : M Retired := do
  let _ ← first
  second

/-- An instruction on the result of another, whose value it turns back. -/
theorem run_inOrder {f g : State → Xlenbits → Xlenbits} {rs rd : Regidx} {s : State}
    {first second : M Retired} (hrd : rd ≠ 0#5)
    (hback : ∀ v, g (s.setX rd (f s v)) (f s v) = v)
    (hfirst : first.run s = .ok (.RETIRE_SUCCESS, s.setX rd (f s (s.X rs))))
    (hsecond : ∀ t, second.run t = .ok (.RETIRE_SUCCESS, t.setX rd (g t (t.X rd)))) :
    (inOrder first second).run s = .ok (.RETIRE_SUCCESS, s.setX rd (s.X rs)) := by
  unfold inOrder
  rw [Exec.run_bind_of_ok hfirst, hsecond, State.X_setX, if_pos ⟨rfl, hrd⟩, hback,
    State.setX_setX]

omit [Platform] in
/-- The two rotations of a register whose width is a power of two. -/
theorem rotate_cancel {n k : ℕ} (hn : n = 2 ^ k) (v : BitVec n) (a : BitVec k) :
    rotateBitsRight (rotateBitsLeft v a) a = v ∧ rotateBitsLeft (rotateBitsRight v a) a = v := by
  subst hn
  exact ⟨rotateBitsRight_rotateBitsLeft v a, rotateBitsLeft_rotateBitsRight v a⟩

/-- The amount is read at the width of the register, so that the rotations cancel. -/
theorem result_rol_ror (v rs2Val : Xlenbits) :
    BropZbb.result .RISCV_ROR (BropZbb.result .RISCV_ROL v rs2Val) rs2Val = v
      ∧ BropZbb.result .RISCV_ROL (BropZbb.result .RISCV_ROR v rs2Val) rs2Val = v := by
  unfold BropZbb.result
  by_cases h32 : xlen = 32
  · simp only [if_pos h32]
    exact rotate_cancel (k := 5) h32 v _
  · simp only [if_neg h32]
    exact rotate_cancel (k := 6) (Platform.xlen_eq.resolve_left h32) v _

/-- **What one instruction permutes, another puts back.**  The second works on the result of the
first, in any register but `x0`; a rotation has to leave the register of its amount alone. -/
theorem permutation_undone {rs rd : Regidx} (s : State) (hrd : rd ≠ 0#5) :
    (inOrder (ZbbInst.RISCV_REV8 rs rd).execute (ZbbInst.RISCV_REV8 rd rd).execute).run s
        = .ok (.RETIRE_SUCCESS, s.setX rd (s.X rs))
      ∧ (inOrder (ZbkbInst.RISCV_BREV8 rs rd).execute (ZbkbInst.RISCV_BREV8 rd rd).execute).run s
        = .ok (.RETIRE_SUCCESS, s.setX rd (s.X rs))
      ∧ (xlen = 32 →
        (inOrder (ZbkbInst.RISCV_ZIP rs rd).execute (ZbkbInst.RISCV_UNZIP rd rd).execute).run s
            = .ok (.RETIRE_SUCCESS, s.setX rd (s.X rs))
          ∧ (inOrder (ZbkbInst.RISCV_UNZIP rs rd).execute (ZbkbInst.RISCV_ZIP rd rd).execute).run s
            = .ok (.RETIRE_SUCCESS, s.setX rd (s.X rs)))
      ∧ ∀ rs2 ≠ rd,
        (inOrder (ZbbInst.ZBB_RTYPE rs2 rs rd .RISCV_ROL).execute
            (ZbbInst.ZBB_RTYPE rs2 rd rd .RISCV_ROR).execute).run s
            = .ok (.RETIRE_SUCCESS, s.setX rd (s.X rs))
          ∧ (inOrder (ZbbInst.ZBB_RTYPE rs2 rs rd .RISCV_ROR).execute
              (ZbbInst.ZBB_RTYPE rs2 rd rd .RISCV_ROL).execute).run s
            = .ok (.RETIRE_SUCCESS, s.setX rd (s.X rs)) := by
  refine ⟨?_, ?_, ?_, ?_⟩
  · exact run_inOrder (f := fun _ => rev8) (g := fun _ => rev8) hrd rev8_rev8 rfl (fun _ => rfl)
  · exact run_inOrder (f := fun _ => brev8) (g := fun _ => brev8) hrd brev8_brev8 rfl
      (fun _ => rfl)
  · intro h32
    have hassert (s : State) : (assert (decide (xlen = 32)) "").run s = .ok ((), s) :=
      run_assert_ok.mpr ⟨decide_eq_true h32, rfl⟩
    have hzip (rs : Regidx) (s : State) : (ZbkbInst.RISCV_ZIP rs rd).execute.run s
        = .ok (.RETIRE_SUCCESS, s.setX rd (zipBits (s.X rs))) := by
      unfold ZbkbInst.execute
      rw [Exec.run_bind_of_ok (hassert s)]
      rfl
    have hunzip (rs : Regidx) (s : State) : (ZbkbInst.RISCV_UNZIP rs rd).execute.run s
        = .ok (.RETIRE_SUCCESS, s.setX rd (unzipBits (s.X rs))) := by
      unfold ZbkbInst.execute
      rw [Exec.run_bind_of_ok (hassert s)]
      rfl
    constructor
    · exact run_inOrder (f := fun _ => zipBits) (g := fun _ => unzipBits) hrd unzipBits_zipBits
        (hzip rs s) (hunzip rd)
    · exact run_inOrder (f := fun _ => unzipBits) (g := fun _ => zipBits) hrd zipBits_unzipBits
        (hunzip rs s) (hzip rd)
  · intro rs2 hrs2
    have hamount (w : Xlenbits) : (s.setX rd w).X rs2 = s.X rs2 := by
      rw [State.X_setX, if_neg (fun h => hrs2 h.1)]
    constructor
    · refine run_inOrder (f := fun t v => BropZbb.result .RISCV_ROL v (t.X rs2))
        (g := fun t v => BropZbb.result .RISCV_ROR v (t.X rs2)) hrd (fun v => ?_) rfl
        (fun _ => rfl)
      rw [hamount]
      exact (result_rol_ror v _).1
    · refine run_inOrder (f := fun t v => BropZbb.result .RISCV_ROR v (t.X rs2))
        (g := fun t v => BropZbb.result .RISCV_ROL v (t.X rs2)) hrd (fun v => ?_) rfl
        (fun _ => rfl)
      rw [hamount]
      exact (result_rol_ror v _).2

end

end SailRiscv
